import ChipEight.Proofs.Assembly.Errors

/-!
# Resolution of labels

Two passes over any row of actions, whether items have asked for them or not: when they make a
program (`Sound`), what each action comes to in it (`Action.block?`), and where labels lie
(`assembleActions_exact`).
-/

namespace ChipEight.Assembly

/-! ## Actions of modules -/

/-- Assembles the actions of modules, each of which has a name, to a program. -/
def assembleActions (modules : List (String × List Action)) : Except Error (List UInt8) :=
  match FirstPass.processAllActions modules {} with
  | .ok () l => l.link
  | .error e _ => .error e

/-! ## Sound rows -/

namespace Action

/-- The number of bytes that an action issues, or leaves room for. -/
def width : Action → Nat
  | .word _ _ | .reference _ _ => 2
  | .data values => values.length
  | .bytes block => block.length
  | .label _ | .unknown _ => 0

end Action

/-- The offset behind actions. -/
def reach (actions : List Action) : Nat := (actions.map Action.width).sum

/-- Whether actions make a program. -/
structure Sound (actions : List Action) : Prop where
  known : ∀ text, .unknown text ∉ actions
  inRange : ∀ a ∈ actions, ∀ operand ∈ a.operands, 0 ≤ operand.2 ∧ operand.2 < operand.1.limit
  distinct : (actions.filterMap Action.label?).Nodup
  resolved : ∀ template name, .reference template name ∈ actions →
    ∃ earlier later, actions = earlier ++ .label name :: later ∧ reach earlier ≤ 0xDFF
  room : reach actions ≤ 3584

/-- The bytes of an action in a program, if labels have these offsets. -/
def Action.block? (offset? : String → Option Nat) : Action → Option (List UInt8)
  | .word template operands => some (wordBytes (placedIn template.toNat operands))
  | .reference template name =>
    (offset? name).map fun offset => wordBytes (template.toNat ||| (Memory.romBase + offset))
  | .data values => some (values.map fun v => UInt8.ofNat v.toNat)
  | .bytes block => some block
  | .label _ => some []
  | .unknown _ => none

/-! ## Offsets -/

theorem size_of_passes (a : Action) (passes : a.Passes) : a.size = a.width := by
  cases a with
  | word template operands =>
    obtain ⟨encoded, fits⟩ := passes.2
    simp only [Action.size, Action.chunks, fits]
    rfl
  | data values => simp [Action.size, Action.chunks, Chunk.size, Action.width]
  | reference _ _ | bytes _ | label _ | unknown _ => rfl

/-- A label has the offset behind the actions in front of it. -/
theorem lookup_offsets {actions : List Action} (passes : ∀ a ∈ actions, a.Passes) (base : Nat)
    (name : String) (offset : Nat) (found : (offsets base actions).lookup name = some offset) :
    ∃ earlier later, actions = earlier ++ .label name :: later ∧
      offset = base + reach earlier := by
  induction actions generalizing base with
  | nil => cases found
  | cons a actions ih =>
    obtain ⟨first, others⟩ := List.forall_mem_cons.mp passes
    have onwards (found : (offsets (base + a.size) actions).lookup name = some offset) :
        ∃ earlier later, a :: actions = earlier ++ .label name :: later ∧
          offset = base + reach earlier := by
      obtain ⟨earlier, later, rfl, rfl⟩ := ih others (base + a.size) found
      refine ⟨a :: earlier, later, rfl, ?_⟩
      rw [size_of_passes a first, Nat.add_assoc]
      rfl
    rw [offsets] at found
    cases defined : a.label? with
    | none =>
      rw [defined] at found
      exact onwards found
    | some other =>
      rw [defined, Option.map_some, Option.toList_some, List.singleton_append,
        List.lookup_cons] at found
      by_cases same : name = other
      · subst same
        rw [beq_self_eq_true] at found
        obtain rfl := Option.some.inj found
        obtain rfl := Action.label?_eq_some_iff.mp defined
        exact ⟨[], actions, rfl, rfl⟩
      · rw [beq_false_of_ne same] at found
        exact onwards found

theorem lookup_of_split {earlier later : List Action} {name : String}
    (passes : ∀ a ∈ earlier, a.Passes)
    (distinct : ((earlier ++ .label name :: later).filterMap Action.label?).Nodup) (base : Nat) :
    (offsets base (earlier ++ .label name :: later)).lookup name = some (base + reach earlier) := by
  induction earlier generalizing base with
  | nil =>
    change List.lookup name ((name, base) :: _) = _
    rw [List.lookup_cons, beq_self_eq_true]
    rfl
  | cons a earlier ih =>
    obtain ⟨first, others⟩ := List.forall_mem_cons.mp passes
    rw [List.cons_append, List.filterMap_cons] at distinct
    have reaches : base + reach (a :: earlier) = base + a.size + reach earlier := by
      rw [size_of_passes a first, Nat.add_assoc]
      rfl
    rw [List.cons_append, offsets, reaches]
    cases defined : a.label? with
    | none =>
      rw [defined] at distinct
      exact ih others distinct (base + a.size)
    | some other =>
      rw [defined] at distinct
      obtain ⟨new, distinct⟩ := List.nodup_cons.mp distinct
      -- A label of the same name would have been defined twice.
      have different : name ≠ other := by
        rintro rfl
        apply new
        rw [List.filterMap_append, List.mem_append]
        exact .inr (List.mem_filterMap.mpr ⟨.label name, List.mem_cons_self, rfl⟩)
      rw [Option.map_some, Option.toList_some, List.singleton_append, List.lookup_cons,
        beq_false_of_ne different]
      exact ih others distinct (base + a.size)

variable {l : Listing} {actions : List Action}

/-- What the first pass leaves knows the labels by their offsets. -/
theorem offset?_eq_some_iff (alike : l.Alike (({} : Listing).after actions))
    (passes : ∀ a ∈ actions, a.Passes) (distinct : (actions.filterMap Action.label?).Nodup)
    (name : String) (offset : Nat) :
    l.offset? name = some offset ↔
      ∃ earlier later, actions = earlier ++ .label name :: later ∧ offset = reach earlier := by
  have left : l.labels = (offsets 0 actions).reverse := by
    rw [alike.labels, Listing.labels_after]
    exact List.append_nil _
  rw [l.offset?_of_labels left distinct]
  constructor
  · intro found
    obtain ⟨earlier, later, split, rfl⟩ := lookup_offsets passes 0 name offset found
    exact ⟨earlier, later, split, Nat.zero_add _⟩
  · rintro ⟨earlier, later, rfl, rfl⟩
    have passesEarlier := (List.forall_mem_append.mp passes).1
    rw [lookup_of_split passesEarlier distinct 0, Nat.zero_add]

/-! ## Linking -/

/-- Whether a block is what an action comes to. -/
def Listing.Emits (l : Listing) (a : Action) (block : List UInt8) : Prop :=
  a.block? l.offset? = some block

/-- Whether a label has an offset that makes an address. -/
def Listing.Reaches (l : Listing) (name : String) : Prop :=
  ∃ offset, l.offset? name = some offset ∧ offset ≤ 0xDFF

/-- A reference becomes its template with the address in its place, or linking fails. -/
theorem resolve_reference (l : Listing) (op : Operation Literal Literal Target) (name : String) :
    (l.Reaches name ∧ ∃ offset, l.offset? name = some offset ∧
      l.resolve (.reference op.template name) =
        .ok (wordBytes (op.template ||| (Memory.romBase + offset)))) ∨
      ¬ l.Reaches name ∧ ∃ e, l.resolve (.reference op.template name) = .error e ∧ e.isOwn := by
  rw [Listing.resolve, Listing.address]
  cases found : l.offset? name with
  | none =>
    right
    refine ⟨?_, .unresolvedLabel name, rfl, rfl⟩
    rintro ⟨offset, known, _⟩
    rw [found] at known
    cases known
  | some offset =>
    by_cases near : offset ≤ 0xDFF
    · left
      have isAddress : Memory.romBase + offset < 0x1000 := by
        rw [Memory.romBase]
        omega
      refine ⟨⟨offset, found, near⟩, offset, rfl, ?_⟩
      have inside : ∀ operand ∈ [(Field.address, ((Memory.romBase + offset : Nat) : Int))],
          ¬ isOutside operand = true := by
        rw [List.forall_mem_singleton, not_isOutside_iff, Field.limit]
        omega
      have encoded := encode_template op _ inside
      simp only [dif_pos isAddress]
      change (do return wordBytes (← encode op.template _) : Except Error _) = _
      rw [encoded]
      rfl
    · right
      have notAddress : ¬ Memory.romBase + offset < 0x1000 := by
        rw [Memory.romBase]
        omega
      refine ⟨?_, .labelTooFar name, ?_, rfl⟩
      · rintro ⟨other, known, small⟩
        rw [found] at known
        obtain rfl := Option.some.inj known
        exact near small
      · simp only [dif_neg notAddress]
        rfl

/-- The chunks of an action become its block, or its label is out of reach. -/
theorem mapM_resolve_action (l : Listing) (a : Action) (template : a.HasTemplate)
    (passes : a.Passes) :
    ((∀ t name, a = .reference t name → l.Reaches name) ∧
      ∃ parts, a.chunks.mapM l.resolve = .ok parts ∧ l.Emits a parts.flatten) ∨
      (∃ t name, a = .reference t name ∧ ¬ l.Reaches name) ∧
        ∃ e, a.chunks.mapM l.resolve = .error e ∧ e.isOwn := by
  cases a with
  | reference t name =>
    obtain ⟨op, rfl⟩ := template
    rw [Action.chunks, List.mapM_cons]
    obtain ⟨near, offset, known, linked⟩ | ⟨far, e, failed, own⟩ := resolve_reference l op name
    · left
      refine ⟨?_, _, by rw [linked]; rfl, ?_⟩
      · rintro _ _ ⟨⟩
        exact near
      · rw [Listing.Emits, Action.block?, known]
        rfl
    · exact .inr ⟨⟨_, name, rfl, far⟩, e, by rw [failed]; rfl, own⟩
  | word t operands =>
    obtain ⟨op, rfl⟩ := template
    rw [Action.chunks, encode_template op operands (List.find?_eq_none.mp passes.1)]
    exact .inl ⟨by simp, _, rfl, rfl⟩
  | data values => exact .inl ⟨by simp, _, rfl, congrArg some (List.append_nil _).symm⟩
  | bytes block => exact .inl ⟨by simp, _, rfl, congrArg some (List.append_nil _).symm⟩
  | label name => exact .inl ⟨by simp, _, rfl, rfl⟩
  | unknown text => exact absurd passes.2 id

/-- Chunks of actions become their blocks, or a label is out of reach. -/
theorem mapM_resolve_actions (l : Listing) (actions : List Action)
    (templates : ∀ a ∈ actions, a.HasTemplate) (passes : ∀ a ∈ actions, a.Passes) :
    ((∀ t name, .reference t name ∈ actions → l.Reaches name) ∧
      ∃ parts blocks, (actions.flatMap Action.chunks).mapM l.resolve = .ok parts ∧
        List.Forall₂ l.Emits actions blocks ∧ parts.flatten = blocks.flatten) ∨
      (∃ t name, .reference t name ∈ actions ∧ ¬ l.Reaches name) ∧
        ∃ e, (actions.flatMap Action.chunks).mapM l.resolve = .error e ∧ e.isOwn := by
  induction actions with
  | nil => exact .inl ⟨nofun, [], [], rfl, .nil, rfl⟩
  | cons a actions ih =>
    obtain ⟨templateFirst, templates⟩ := List.forall_mem_cons.mp templates
    obtain ⟨passesFirst, passes⟩ := List.forall_mem_cons.mp passes
    rw [List.flatMap_cons, except_mapM_append]
    obtain ⟨near, parts, linked, emits⟩ | ⟨⟨t, name, same, far⟩, e, failed, own⟩ :=
      mapM_resolve_action l a templateFirst passesFirst
    · obtain ⟨nearLater, others, blocks, linkedLater, emitsLater, same⟩ |
        ⟨⟨t, name, mem, far⟩, e, failed, own⟩ := ih templates passes
      · left
        refine ⟨?_, parts ++ others, parts.flatten :: blocks, by rw [linked, linkedLater],
          .cons emits emitsLater, ?_⟩
        · intro t name mem
          obtain first | later := List.mem_cons.mp mem
          · exact near t name first.symm
          · exact nearLater t name later
        · rw [List.flatten_append, same, List.flatten_cons]
      · exact .inr ⟨⟨t, name, List.mem_cons_of_mem a mem, far⟩, e, by rw [linked, failed], own⟩
    · exact .inr ⟨⟨t, name, by rw [same]; exact List.mem_cons_self, far⟩, e, by rw [failed], own⟩

theorem length_of_emits {a : Action} {block : List UInt8} (emits : l.Emits a block) :
    block.length = a.width := by
  cases a with
  | reference t name =>
    obtain ⟨offset, _, rfl⟩ := Option.map_eq_some_iff.mp emits
    rfl
  | unknown text => cases emits
  | word _ _ | bytes _ | label _ =>
    obtain rfl := Option.some.inj emits
    rfl
  | data values =>
    obtain rfl := Option.some.inj emits
    exact List.length_map _

theorem length_of_blocks {blocks : List (List UInt8)}
    (emits : List.Forall₂ l.Emits actions blocks) : blocks.flatten.length = reach actions := by
  induction emits with
  | nil => rfl
  | cons first _ ih =>
    rw [List.flatten_cons, List.length_append, length_of_emits first, ih]
    rfl

/-! ## Templates of references -/

/-- A template with nothing in the place of an address does not meet any. -/
theorem and_address (template address : Nat) (clear : template % 0x1000 = 0)
    (small : address < 0x1000) : template &&& address = 0 := by
  obtain ⟨family, rfl⟩ := Nat.dvd_of_mod_eq_zero clear
  apply Nat.eq_of_testBit_eq
  intro k
  rw [Nat.testBit_and, Nat.zero_testBit, Bool.and_eq_false_iff,
    show 0x1000 * family = 2 ^ 12 * family from rfl, Nat.testBit_two_pow_mul]
  by_cases low : k < 12
  · left
    simp [Nat.not_le.mpr low]
  · right
    apply Nat.testBit_lt_two_pow
    have bound : 2 ^ 12 ≤ 2 ^ k := Nat.pow_le_pow_right Nat.two_pos (Nat.not_lt.mp low)
    exact Nat.lt_of_lt_of_le small bound

/-- Only operations with an address refer to labels, and their templates leave room for it. -/
theorem template_of_reference (item : Item) (template : Int) (name : String)
    (asks : item.action = .reference template name) : template % 0x1000 = 0 := by
  cases item with
  | label _ | unknown _ => cases asks
  | command command =>
    cases command with
    | data _ => cases asks
    | operation op =>
      cases op with
      | sys target | jump target | call target | loadIndex target | jumpOffset target =>
        cases target with
        | number _ => cases asks
        | label _ =>
          cases asks
          simp only [Operation.template]
          decide
      | _ => cases asks

/-! ## Programs of actions -/

/-- Modules that have been read are assembled as their actions. -/
theorem assemble_eq_assembleActions (modules : List Module) (items : List (List Item))
    (read : List.Forall₂ (fun m items => m.items = .ok items) modules items) :
    assemble modules = assembleActions (List.zipWith Module.request modules items) := by
  rw [assemble_apply, FirstPass.processAll_eq modules items read]
  rfl

/-- Actions run through if nothing is wrong with them before linking. -/
theorem runs_of_sound (templates : ∀ a ∈ actions, a.HasTemplate) (sound : Sound actions) :
    ({} : Listing).Runs actions := by
  rw [Listing.runs_iff]
  refine ⟨fun a mem => (passes_iff a (templates a mem).hasWord).mpr ⟨?_, fun operand isOperand => ?_⟩,
    sound.distinct, fun _ _ => rfl⟩
  · rintro text rfl
    exact sound.known text mem
  · exact (not_isOutside_iff operand).mpr (sound.inRange a mem operand isOperand)

/-- What linking makes of actions that have run through: their program exactly if they are sound,
    and otherwise an error. -/
theorem link_of_runs (templates : ∀ a ∈ actions, a.HasTemplate)
    (runs : ({} : Listing).Runs actions) (alike : l.Alike (({} : Listing).after actions)) :
    (Sound actions ∧ ∃ blocks, List.Forall₂ l.Emits actions blocks ∧ l.link = .ok blocks.flatten) ∨
      ¬ Sound actions ∧ ∃ e, l.link = .error e ∧ e.isOwn := by
  obtain ⟨passes, distinct, _⟩ := (Listing.runs_iff _ _).mp runs
  have chunks : l.chunks.toList = actions.flatMap Action.chunks := by
    rw [alike.chunks, Listing.chunks_after]
    rfl
  have reaches (name : String) : l.Reaches name ↔
      ∃ earlier later, actions = earlier ++ .label name :: later ∧ reach earlier ≤ 0xDFF := by
    simp only [Listing.Reaches, offset?_eq_some_iff alike passes distinct]
    constructor
    · rintro ⟨_, ⟨earlier, later, split, rfl⟩, near⟩
      exact ⟨earlier, later, split, near⟩
    · rintro ⟨earlier, later, split, near⟩
      exact ⟨reach earlier, ⟨earlier, later, split, rfl⟩, near⟩
  rw [link_apply, chunks]
  obtain ⟨near, parts, blocks, linked, emits, same⟩ | ⟨⟨t, name, mem, far⟩, e, failed, own⟩ :=
    mapM_resolve_actions l actions templates passes
  · rw [linked]
    dsimp only
    rw [same, length_of_blocks emits]
    by_cases room : reach actions ≤ 3584
    · left
      refine ⟨⟨?_, ?_, distinct, fun t name mem => (reaches name).mp (near t name mem), room⟩,
        blocks, emits, if_neg ?_⟩
      · exact fun text mem => (passes _ mem).2
      · intro a mem operand isOperand
        rw [← not_isOutside_iff]
        exact List.find?_eq_none.mp (passes a mem).1 operand isOperand
      · rw [Memory.capacity, Memory.romBase]
        omega
    · right
      refine ⟨fun sound => room sound.room, _, if_pos ?_, rfl⟩
      rw [Memory.capacity, Memory.romBase]
      omega
  · right
    refine ⟨fun sound => far ((reaches name).mpr (sound.resolved t name mem)), e, ?_, own⟩
    rw [failed]

theorem size_eq_reach (alike : l.Alike (({} : Listing).after actions))
    (passes : ∀ a ∈ actions, a.Passes) : l.size = reach actions := by
  rw [alike.size, Listing.size_after]
  change 0 + _ = _
  rw [Nat.zero_add, reach, List.map_congr_left fun a mem => size_of_passes a (passes a mem)]

/-- The offset of a label is the number of bytes that come from the actions in front of it. -/
theorem offset?_of_emits (alike : l.Alike (({} : Listing).after actions))
    (passes : ∀ a ∈ actions, a.Passes) (distinct : (actions.filterMap Action.label?).Nodup)
    {blocks : List (List UInt8)} (emits : List.Forall₂ l.Emits actions blocks)
    {earlier later : List Action} {name : String}
    (split : actions = earlier ++ .label name :: later) :
    l.offset? name = some (blocks.take earlier.length).flatten.length := by
  have front := List.forall₂_take earlier.length emits
  rw [split, List.take_left] at front
  rw [length_of_blocks front]
  exact (offset?_eq_some_iff alike passes distinct name _).mpr ⟨earlier, later, split, rfl⟩

/-- The bits of a template do not meet those of an address that it is completed with. -/
theorem disjoint_of_sound (alike : l.Alike (({} : Listing).after actions))
    (passes : ∀ a ∈ actions, a.Passes) (templates : ∀ a ∈ actions, a.HasTemplate)
    (sound : Sound actions) {template : Int} {name : String} {offset : Nat}
    (mem : .reference template name ∈ actions) (known : l.offset? name = some offset)
    (clear : template % 0x1000 = 0) : template.toNat &&& (Memory.romBase + offset) = 0 := by
  obtain ⟨earlier, later, split, near⟩ := sound.resolved template name mem
  have lies := (offset?_eq_some_iff alike passes sound.distinct name _).mpr
    ⟨earlier, later, split, rfl⟩
  rw [known] at lies
  obtain rfl := Option.some.inj lies
  obtain ⟨op, rfl⟩ := templates _ mem
  rw [Int.toNat_natCast]
  apply and_address
  · omega
  · rw [Memory.romBase]
    omega

/-- The actions of modules in a single row. -/
def allActions (modules : List (String × List Action)) : List Action := modules.flatMap Prod.snd

/-- Modules run through and are linked to the blocks of their actions, or they are not sound and
    fail with an error about the program. -/
theorem assembleActions_cases (modules : List (String × List Action))
    (templates : ∀ a ∈ allActions modules, a.HasTemplate)
    (writable : ∀ a ∈ allActions modules, ∀ operand ∈ a.operands, Decimal.isWritable operand.2) :
    (Sound (allActions modules) ∧ ∃ l blocks,
      FirstPass.processAllActions modules {} = .ok () l ∧
        l.Alike (({} : Listing).after (allActions modules)) ∧
        List.Forall₂ l.Emits (allActions modules) blocks ∧
        assembleActions modules = .ok blocks.flatten) ∨
      ¬ Sound (allActions modules) ∧ ∃ e, assembleActions modules = .error e ∧ e.isOwn := by
  obtain ⟨runs, l, done, alike⟩ | ⟨stuck, e, l, failed, a, mem, before, fault⟩ :=
    FirstPass.processAllActions_cases modules {}
  · have outcome : assembleActions modules = l.link := by rw [assembleActions, done]
    obtain ⟨sound, blocks, emits, linked⟩ | ⟨notSound, e, failed, own⟩ :=
      link_of_runs templates runs alike
    · exact .inl ⟨sound, l, blocks, done, alike, emits, outcome.trans linked⟩
    · exact .inr ⟨notSound, e, outcome.trans failed, own⟩
  · right
    refine ⟨fun sound => stuck (runs_of_sound templates sound), e, by rw [assembleActions, failed],
      ?_⟩
    obtain own | ⟨_, operand, outside, notWritable⟩ :=
      isOwn_of_action before a (templates a mem).hasWord e fault
    · exact own
    · rw [writable a mem operand (List.mem_of_find?_eq_some outside)] at notWritable
      cases notWritable

/-- Actions of modules make a program exactly if they are sound, and fail with an error about the
    program otherwise. The program is the blocks of the actions in their order: labels lie where the
    first pass says, and references hold the addresses of their labels. Modules that have been read
    are assembled in this way, and whatever refers to a label leaves room for an address. -/
theorem assembleActions_exact (modules : List (String × List Action))
    (templates : ∀ a ∈ allActions modules, a.HasTemplate)
    (bounded : ∀ a ∈ allActions modules, ∀ operand ∈ a.operands,
      operand.2.natAbs < Decimal.tenTo 4000) :
    ((∃ program, assembleActions modules = .ok program) ↔ Sound (allActions modules)) ∧
      (∀ e, assembleActions modules = .error e → e.isOwn) ∧
      (∀ program, assembleActions modules = .ok program →
        ∃ l blocks, FirstPass.processAllActions modules {} = .ok () l ∧
          List.Forall₂ l.Emits (allActions modules) blocks ∧ program = blocks.flatten ∧
          program.length = l.size ∧
          (∀ earlier name later, allActions modules = earlier ++ .label name :: later →
            l.offset? name = some (blocks.take earlier.length).flatten.length) ∧
          ∀ template name offset, .reference template name ∈ allActions modules →
            l.offset? name = some offset → template % 0x1000 = 0 →
              template.toNat &&& (Memory.romBase + offset) = 0) ∧
      (∀ (texts : List Module) (items : List (List Item)),
        List.Forall₂ (fun m items => m.items = .ok items) texts items →
          assemble texts = assembleActions (List.zipWith Module.request texts items)) ∧
      ∀ item : Item, item.action.HasTemplate ∧
        ∀ template name, item.action = .reference template name → template % 0x1000 = 0 := by
  have writable : ∀ a ∈ allActions modules, ∀ operand ∈ a.operands,
      Decimal.isWritable operand.2 := fun a mem operand isOperand =>
    Decimal.isWritable_of_lt (bounded a mem operand isOperand) (by decide)
  refine ⟨?_, ?_, ?_, assemble_eq_assembleActions, fun item => ⟨hasTemplate_action item,
    template_of_reference item⟩⟩
  all_goals
    obtain ⟨sound, l, blocks, done, alike, emits, assembled⟩ | ⟨notSound, e, failed, own⟩ :=
      assembleActions_cases modules templates writable
  · exact iff_of_true ⟨_, assembled⟩ sound
  · refine iff_of_false ?_ notSound
    rintro ⟨program, assembled⟩
    rw [failed] at assembled
    cases assembled
  · intro e failed
    rw [assembled] at failed
    cases failed
  · intro other failedToo
    rw [failed] at failedToo
    obtain rfl := Except.error.inj failedToo
    exact own
  · intro program isProgram
    rw [assembled] at isProgram
    obtain rfl := Except.ok.inj isProgram
    obtain ⟨passes, distinct, _⟩ := (Listing.runs_iff _ _).mp (runs_of_sound templates sound)
    refine ⟨l, blocks, done, emits, rfl, ?_, ?_, ?_⟩
    · rw [length_of_blocks emits, size_eq_reach alike passes]
    · exact fun earlier name later => offset?_of_emits alike passes distinct emits
    · exact fun template name offset => disjoint_of_sound alike passes templates sound
  · intro program assembled
    rw [failed] at assembled
    cases assembled

/-- A jump to a label of a later module, behind an odd number of bytes. -/
theorem assembleActions_exact_forward :
    assembleActions [("main", [.reference 0x1000 "end", .data [1, 2, 3]]),
        ("library", [.label "end", .word 0x6000 [(.x, 5), (.byte, 0xFF)]])] =
        .ok [0x12, 0x05, 1, 2, 3, 0x65, 0xFF] ∧
      Sound [.reference 0x1000 "end", .data [1, 2, 3], .label "end",
        .word 0x6000 [(.x, 5), (.byte, 0xFF)]] := by
  have assembled : assembleActions [("main", [.reference 0x1000 "end", .data [1, 2, 3]]),
      ("library", [.label "end", .word 0x6000 [(.x, 5), (.byte, 0xFF)]])] =
      .ok [0x12, 0x05, 1, 2, 3, 0x65, 0xFF] := rfl
  have small : 0x100 ≤ Decimal.tenTo 4000 :=
    Nat.le_trans (show 0x100 ≤ Decimal.tenTo 3 by decide) (Decimal.tenTo_mono (by decide))
  refine ⟨assembled, (assembleActions_exact _ ?_ ?_).1.mp ⟨_, assembled⟩⟩
  · intro a mem
    simp only [allActions, List.flatMap_cons, List.flatMap_nil, List.cons_append, List.nil_append,
      List.mem_cons, List.not_mem_nil, or_false] at mem
    obtain rfl | rfl | rfl | rfl := mem
    · exact ⟨.jump (.label "end"), rfl⟩
    · trivial
    · trivial
    · exact ⟨.load 0 ⟨.decimal, []⟩, rfl⟩
  · have inside : ∀ a ∈ allActions [("main", [.reference 0x1000 "end", .data [1, 2, 3]]),
        ("library", [.label "end", .word 0x6000 [(.x, 5), (.byte, 0xFF)]])],
        ∀ operand ∈ a.operands, operand.2.natAbs < 0x100 := by decide
    exact fun a mem operand isOperand =>
      Nat.lt_of_lt_of_le (inside a mem operand isOperand) small

end ChipEight.Assembly
