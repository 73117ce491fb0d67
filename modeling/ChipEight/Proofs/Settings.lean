import ChipEight.Settings
import Mathlib

/-!
# What settings require of a document

A document is checked for one requirement after the other, and the first that it does not meet
decides which error there is (`checks_ofDocument`). Most errors tell that the configuration is at
fault. Three kinds do not: what should be a table is none, an integer has too many digits to be read
or to be shown in the message about it, and values lie too deep in each other for the one or the
other. `Misfit` says which texts lead to those, and `parse_outcome` that no others do. If all
requirements are met, the settings are what the document says (`Reads`).
-/

namespace ChipEight

open Toml (Value)

/-- A colour as it stands in a document. -/
def Colour.value (c : Colour) : Value :=
  .array [.integer c.red.toNat, .integer c.green.toNat, .integer c.blue.toNat]

namespace Settings

/-! ## Requirements -/

def IsTable (v : Value) : Prop :=
  ∃ entries, v = .table entries

def IsPositive (v : Value) : Prop :=
  ∃ n, v = .integer n ∧ 0 < n

def IsChannel (v : Value) : Prop :=
  ∃ n, v = .integer n ∧ 0 ≤ n ∧ n ≤ 255

def IsColour (v : Value) : Prop :=
  ∃ red green blue, v = .array [red, green, blue] ∧
    IsChannel red ∧ IsChannel green ∧ IsChannel blue

/-- Whether the text of a value is a hexadecimal digit. -/
def NamesKey (v : Value) : Prop :=
  v.isWritable ∧ ∃ n, Text.Numeral.hexadecimal? v.plain = some n ∧ 0 ≤ n ∧ n < 16

/-- The entries of the table at a name; none, if there is no table. -/
def entriesOf (document : List (String × Value)) (name : String) : List (String × Value) :=
  match document.lookup name with
  | some (.table entries) => entries
  | _ => []

/-- What stands at a name in a table of a document. -/
def valueAt? (document : List (String × Value)) (parent name : String) : Option Value :=
  (entriesOf document parent).lookup name

inductive Requirement
  /-- What stands at a name, if anything does, is a table. -/
  | table (name : String) (use : TableUse)
  /-- What stands at a name in a table, if anything does, is a positive integer. -/
  | positive (parent name : String)
  /-- What stands at a name in a table, if anything does, is a colour. -/
  | colour (parent name : String)
  /-- A value in the key map names a key. -/
  | key (v : Value)

namespace Requirement

def IsMet (document : List (String × Value)) : Requirement → Prop
  | .table name _ => ∀ v, document.lookup name = some v → IsTable v
  | .positive parent name => ∀ v, valueAt? document parent name = some v → IsPositive v
  | .colour parent name => ∀ v, valueAt? document parent name = some v → IsColour v
  | .key v => NamesKey v

/-- Whether an error is the one that comes of a requirement that is not met. -/
def Refuses (document : List (String × Value)) : Requirement → Error → Prop
  | .table name use, e => ∃ v, document.lookup name = some v ∧ e = .notTable v use
  | .positive _ name, e => e = .notPositive name
  | .colour parent name, e => ∃ v, valueAt? document parent name = some v ∧
      e = .about v (.invalidColour v)
  | .key v, e => e = .about v (.invalidKey v.plain)

end Requirement

/-- What a document has to meet, in the order in which it is checked. -/
def requirements (document : List (String × Value)) : List Requirement :=
  [.table "display" .lookup, .positive "display" "scale", .colour "display" "foreground",
    .colour "display" "background", .table "cpu" .lookup, .positive "cpu" "cycles_per_frame",
    .positive "cpu" "frame_rate", .table "keymap" .listing] ++
    (entriesOf document "keymap").map fun (_, v) => .key v

/-! ## What is read -/

/-- The last value that the entries of a key map have for a host key, whose name is in lower case. -/
def lastValue? (entries : List (String × Value)) (name : String) : Option Value :=
  (entries.reverse.find? fun entry => Text.lower entry.1 = name).map Prod.snd

/-- A key map has come of another by entries: each host key has the key of the last value that there
    is for it, and the others are left as they were. -/
structure Maps (entries : List (String × Value)) (start keymap : Keymap) : Prop where
  nodup : (start.map Prod.fst).Nodup → (keymap.map Prod.fst).Nodup
  kept : ∀ name, lastValue? entries name = none → keymap.lookup name = start.lookup name
  mapped : ∀ name v, lastValue? entries name = some v → ∃ key : Key,
    keymap.lookup name = some key ∧ Text.Numeral.hexadecimal? v.plain = some (key.val : Int)

/-- The key map is the default, unless a document has entries for it. -/
def ReadsKeymap (document : List (String × Value)) (keymap : Keymap) : Prop :=
  if (document.lookup "keymap").isNone then keymap = .default
  else Maps (entriesOf document "keymap") [] keymap

/-- The settings are what stands in a document: each of them the value that there is for it, or else
    the default, and the key map the entries of the document alone, if there are any. -/
structure Reads (document : List (String × Value)) (settings : Settings) : Prop where
  scale : (valueAt? document "display" "scale").getD (.integer ({} : Settings).scale) =
    .integer settings.scale
  foreground : (valueAt? document "display" "foreground").getD ({} : Settings).foreground.value =
    settings.foreground.value
  background : (valueAt? document "display" "background").getD ({} : Settings).background.value =
    settings.background.value
  cyclesPerFrame : (valueAt? document "cpu" "cycles_per_frame").getD
    (.integer ({} : Settings).cyclesPerFrame) = .integer settings.cyclesPerFrame
  frameRate : (valueAt? document "cpu" "frame_rate").getD (.integer ({} : Settings).frameRate) =
    .integer settings.frameRate
  seed : settings.seed = valueAt? document "cpu" "seed"
  keymap : ReadsKeymap document settings.keymap

/-! ## Checks -/

variable {α β : Type} {document : List (String × Value)}

/-- Whether a computation checks requirements in order: it answers what `Q` holds of if all are met,
    and fails because of the first that is not. -/
inductive Checks (document : List (String × Value)) (rs : List Requirement) (x : Except Error α)
    (Q : α → Prop) : Prop
  | met {a : α} (all : ∀ r ∈ rs, r.IsMet document) (answers : x = .ok a) (holds : Q a)
  | unmet {before : List Requirement} {r : Requirement} {after : List Requirement} {e : Error}
      (split : rs = before ++ r :: after) (all : ∀ q ∈ before, q.IsMet document)
      (missed : ¬ r.IsMet document) (refuses : r.Refuses document e) (fails : x = .error e)

namespace Checks

variable {rs rs' : List Requirement} {x : Except Error α} {Q : α → Prop} {R : β → Prop}

theorem ok {a : α} (holds : Q a) : Checks document [] (.ok a) Q :=
  .met (List.forall_mem_nil _) rfl holds

/-- A computation that checks a single requirement. -/
theorem single {r : Requirement}
    (meets : r.IsMet document → ∃ a, x = .ok a ∧ Q a)
    (misses : ¬ r.IsMet document → ∃ e, x = .error e ∧ r.Refuses document e) :
    Checks document [r] x Q := by
  by_cases isMet : r.IsMet document
  · obtain ⟨a, answers, holds⟩ := meets isMet
    exact .met (List.forall_mem_singleton.mpr isMet) answers holds
  · obtain ⟨e, fails, refuses⟩ := misses isMet
    exact .unmet (List.nil_append [r]).symm (List.forall_mem_nil _) isMet refuses fails

/-- A computation that checks what stands at a place, if anything does. -/
theorem optional {r : Requirement} {place : Option Value} {P : Value → Prop}
    (isMet : r.IsMet document ↔ ∀ v, place = some v → P v)
    (missing : place = none → ∃ a, x = .ok a ∧ Q a)
    (fits : ∀ v, place = some v → P v → ∃ a, x = .ok a ∧ Q a)
    (misfits : ∀ v, place = some v → ¬ P v → ∃ e, x = .error e ∧ r.Refuses document e) :
    Checks document [r] x Q := by
  cases found : place with
  | none =>
    exact .single (fun _ => missing found) fun missed => absurd (isMet.mpr (by simp [found])) missed
  | some v =>
    refine .single (fun met => fits v found (isMet.mp met v found)) fun missed => ?_
    refine misfits v found fun holds => missed (isMet.mpr fun v' same => ?_)
    rw [found] at same
    exact Option.some.inj same ▸ holds

theorem mono {S : α → Prop} (checks : Checks document rs x Q) (more : ∀ a, Q a → S a) :
    Checks document rs x S := by
  cases checks with
  | met all answers holds => exact .met all answers (more _ holds)
  | unmet split all missed refuses fails => exact .unmet split all missed refuses fails

theorem bind {next : α → Except Error β} (first : Checks document rs x Q)
    (second : ∀ a, Q a → Checks document rs' (next a) R) :
    Checks document (rs ++ rs') (x >>= next) R := by
  cases first with
  | met all answers holds =>
    subst answers
    cases second _ holds with
    | met more answers holds =>
      exact .met (List.forall_mem_append.mpr ⟨all, more⟩) answers holds
    | unmet split more missed refuses fails =>
      subst split
      exact .unmet (List.append_assoc _ _ _).symm (List.forall_mem_append.mpr ⟨all, more⟩) missed
        refuses fails
  | unmet split all missed refuses fails =>
    subst split fails
    exact .unmet (List.append_assoc _ _ _) all missed refuses rfl

end Checks

/-! ## Single settings -/

theorem channel?_eq_some_iff (v : Value) (b : UInt8) :
    channel? v = some b ↔ v = .integer b.toNat := by
  cases v with
  | integer n =>
    have bound := b.toNat_lt
    rw [channel?, Value.integer.injEq]
    constructor
    · intro read
      split at read
      · obtain rfl := Option.some.inj read
        rw [UInt8.toNat_ofNat']
        omega
      · cases read
    · rintro rfl
      rw [if_pos (by omega), Int.toNat_natCast, UInt8.ofNat_toNat]
  | _ => simp [channel?]

theorem isChannel_iff (v : Value) : IsChannel v ↔ ∃ b : UInt8, v = .integer b.toNat := by
  constructor
  · rintro ⟨n, rfl, low, high⟩
    refine ⟨UInt8.ofNat n.toNat, congrArg _ ?_⟩
    rw [UInt8.toNat_ofNat']
    omega
  · rintro ⟨b, rfl⟩
    have bound := b.toNat_lt
    exact ⟨b.toNat, rfl, by omega, by omega⟩

theorem colour?_eq_some_iff (v : Value) (c : Colour) : colour? v = some c ↔ v = c.value := by
  obtain ⟨red, green, blue⟩ := c
  match v with
  | .array [r, g, b] =>
    simp [colour?, Colour.value, Option.bind_eq_some_iff, channel?_eq_some_iff]
  | .array [] | .array [_] | .array [_, _] | .array (_ :: _ :: _ :: _ :: _) | .null | .boolean _
  | .integer _ | .float _ | .text _ | .table _ | .date _ | .time _ | .dateTime _ =>
    simp [colour?, Colour.value]

theorem isColour_iff (v : Value) : IsColour v ↔ ∃ c : Colour, v = c.value := by
  constructor
  · rintro ⟨red, green, blue, rfl, isRed, isGreen, isBlue⟩
    obtain ⟨r, rfl⟩ := (isChannel_iff red).mp isRed
    obtain ⟨g, rfl⟩ := (isChannel_iff green).mp isGreen
    obtain ⟨b, rfl⟩ := (isChannel_iff blue).mp isBlue
    exact ⟨⟨r, g, b⟩, rfl⟩
  · rintro ⟨c, rfl⟩
    exact ⟨_, _, _, rfl, (isChannel_iff _).mpr ⟨_, rfl⟩, (isChannel_iff _).mpr ⟨_, rfl⟩,
      (isChannel_iff _).mpr ⟨_, rfl⟩⟩

theorem checks_tableOf (name : String) (use : TableUse) :
    Checks document [.table name use] (tableOf document name use)
      fun entries => entries = entriesOf document name := by
  refine .optional Iff.rfl (fun missing => ?_) ?_ fun v found notTable => ?_
  · exact ⟨[], by rw [tableOf, missing], by rw [entriesOf, missing]⟩
  · rintro _ found ⟨entries, rfl⟩
    exact ⟨entries, by rw [tableOf, found], by rw [entriesOf, found]⟩
  · refine ⟨.notTable v use, ?_, v, found, rfl⟩
    rw [tableOf, found]
    cases v with
    | table entries => exact absurd ⟨entries, rfl⟩ notTable
    | _ => rfl

theorem checks_positive (parent name : String) (default : Nat) (isPositive : 0 < default) :
    Checks document [.positive parent name] (positive (entriesOf document parent) name default)
      fun n => (valueAt? document parent name).getD (.integer default) = .integer n := by
  refine .optional Iff.rfl (fun missing => ?_) ?_ fun v found notPositive => ?_
  · refine ⟨default, ?_, by rw [missing, Option.getD_none]⟩
    rw [valueAt?] at missing
    rw [positive, missing]
    exact if_neg (by omega)
  · rintro _ found ⟨n, rfl, above⟩
    refine ⟨n.toNat, ?_, ?_⟩
    · rw [valueAt?] at found
      rw [positive, found]
      exact if_pos above
    · rw [found, Option.getD_some, Int.toNat_of_nonneg above.le]
  · refine ⟨.notPositive name, ?_, rfl⟩
    rw [valueAt?] at found
    rw [positive, found]
    cases v with
    | integer n => exact if_neg fun above => notPositive ⟨n, rfl, above⟩
    | _ => rfl

theorem parseColour_value (c : Colour) : parseColour c.value = .ok c := by
  rw [parseColour, (colour?_eq_some_iff c.value c).mpr rfl]

theorem parseColour_of_not_isColour {v : Value} (notColour : ¬ IsColour v) :
    parseColour v = .error (.about v (.invalidColour v)) := by
  have unread : colour? v = none := by
    refine Option.eq_none_iff_forall_ne_some.mpr fun c read => notColour ?_
    exact (isColour_iff v).mpr ⟨c, (colour?_eq_some_iff v c).mp read⟩
  rw [parseColour, unread]

theorem checks_colour (parent name : String) (default : Colour) :
    Checks document [.colour parent name] (colour (entriesOf document parent) name default)
      fun c => (valueAt? document parent name).getD default.value = c.value := by
  refine .optional Iff.rfl (fun missing => ?_) (fun v found isColour => ?_)
    fun v found notColour => ?_
  · refine ⟨default, ?_, by rw [missing, Option.getD_none]⟩
    rw [valueAt?] at missing
    rw [colour, missing]
  · obtain ⟨c, rfl⟩ := (isColour_iff v).mp isColour
    refine ⟨c, ?_, by rw [found, Option.getD_some]⟩
    rw [valueAt?] at found
    rw [colour, found]
    exact parseColour_value c
  · refine ⟨_, ?_, v, found, rfl⟩
    rw [valueAt?] at found
    rw [colour, found]
    exact parseColour_of_not_isColour notColour

/-! ## The key map -/

theorem parseKey_of_digit {name : String} {n : Int}
    (read : Text.Numeral.hexadecimal? name = some n) (low : 0 ≤ n) (high : n < 16) :
    ∃ key : Key, parseKey name = .ok key ∧ Text.Numeral.hexadecimal? name = some (key.val : Int) := by
  refine ⟨⟨n.toNat, by omega⟩, ?_, by rw [read, Int.toNat_of_nonneg low]⟩
  rw [parseKey, read, Option.bind_some, Key.ofInt?, dif_pos ⟨low, high⟩]

theorem parseKey_of_no_digit {name : String}
    (noDigit : ¬ ∃ n, Text.Numeral.hexadecimal? name = some n ∧ 0 ≤ n ∧ n < 16) :
    parseKey name = .error (.invalidKey name) := by
  rw [parseKey]
  cases read : Text.Numeral.hexadecimal? name with
  | none => rfl
  | some n =>
    have outside : ¬ (0 ≤ n ∧ n < 16) := fun inside => noDigit ⟨n, read, inside⟩
    rw [Option.bind_some, Key.ofInt?, dif_neg outside]

theorem lookup_put (name : String) (key : Key) (keymap : Keymap) (other : String) :
    (keymap.put name key).lookup other =
      if other = name then some key else keymap.lookup other := by
  induction keymap with
  | nil =>
    rw [Keymap.put, List.lookup_cons]
    by_cases same : other = name
    · simp [same]
    · simp [same, beq_eq_false_iff_ne.mpr same]
  | cons entry rest ih =>
    obtain ⟨n, k⟩ := entry
    rw [Keymap.put]
    split
    · next here =>
      subst here
      rw [List.lookup_cons, List.lookup_cons]
      by_cases same : other = n
      · simp [same]
      · simp [same, beq_eq_false_iff_ne.mpr same]
    · next apart =>
      rw [List.lookup_cons, List.lookup_cons, ih]
      by_cases first : other = n
      · simp [first, apart]
      · simp [beq_eq_false_iff_ne.mpr first]

theorem mem_names_put (name : String) (key : Key) (keymap : Keymap) {other : String}
    (mem : other ∈ (keymap.put name key).map Prod.fst) :
    other = name ∨ other ∈ keymap.map Prod.fst := by
  induction keymap with
  | nil => exact .inl (List.mem_singleton.mp mem)
  | cons entry rest ih =>
    rw [Keymap.put] at mem
    split at mem
    · exact .inr mem
    · obtain rfl | later := List.mem_cons.mp mem
      · exact .inr List.mem_cons_self
      · exact (ih later).imp_right (List.mem_cons_of_mem _)

theorem nodup_put (name : String) (key : Key) {keymap : Keymap}
    (nodup : (keymap.map Prod.fst).Nodup) : ((keymap.put name key).map Prod.fst).Nodup := by
  induction keymap with
  | nil => exact List.nodup_singleton name
  | cons entry rest ih =>
    obtain ⟨n, k⟩ := entry
    obtain ⟨fresh, nodup⟩ := List.nodup_cons.mp nodup
    rw [Keymap.put]
    split
    · exact List.nodup_cons.mpr ⟨fresh, nodup⟩
    · next apart =>
      refine List.nodup_cons.mpr ⟨fun again => ?_, ih nodup⟩
      exact (mem_names_put name key rest again).elim apart fresh

theorem Maps.refl (keymap : Keymap) : Maps [] keymap keymap where
  nodup := id
  kept _ _ := rfl
  mapped _ _ found := by cases found

theorem lastValue?_cons (entry : String × Value) (entries : List (String × Value)) (name : String) :
    lastValue? (entry :: entries) name =
      (lastValue? entries name).or (if Text.lower entry.1 = name then some entry.2 else none) := by
  rw [lastValue?, List.reverse_cons, List.find?_append, Option.map_or, lastValue?]
  by_cases same : Text.lower entry.1 = name <;> simp [same]

/-- The first entry is put into the key map, and the others come after it. -/
theorem Maps.cons {hostKey : String} {v : Value} {entries : List (String × Value)} {key : Key}
    {start keymap : Keymap} (read : Text.Numeral.hexadecimal? v.plain = some (key.val : Int))
    (rest : Maps entries (start.put (Text.lower hostKey) key) keymap) :
    Maps ((hostKey, v) :: entries) start keymap where
  nodup nodup := rest.nodup (nodup_put _ key nodup)
  kept name absent := by
    rw [lastValue?_cons, Option.or_eq_none_iff] at absent
    have other : name ≠ Text.lower hostKey := by
      rintro rfl
      simp at absent
    rw [rest.kept name absent.1, lookup_put, if_neg other]
  mapped name last found := by
    rw [lastValue?_cons] at found
    cases later : lastValue? entries name with
    | some v' =>
      rw [later, Option.some_or] at found
      exact Option.some.inj found ▸ rest.mapped name v' later
    | none =>
      rw [later, Option.none_or] at found
      split at found
      · next same =>
        obtain rfl := Option.some.inj found
        exact ⟨key, by rw [rest.kept name later, lookup_put, if_pos same.symm], read⟩
      · cases found

theorem addKey_of_shown {v : Value} (shown : v.obstacle? = none) (keymap : Keymap)
    (hostKey : String) :
    addKey keymap (hostKey, v) =
      (parseKey v.plain).map (keymap.put (Text.lower hostKey)) := by
  rw [addKey, shown]

theorem addKey_of_obstacle {v : Value} {obstacle : Value.Obstacle}
    (found : v.obstacle? = some obstacle) (keymap : Keymap) (hostKey : String) :
    addKey keymap (hostKey, v) = .error (.ofObstacle obstacle) := by
  rw [addKey, found]

theorem checks_addKey (keymap : Keymap) (hostKey : String) (v : Value) :
    Checks document [.key v] (addKey keymap (hostKey, v)) fun keymap' => ∃ key : Key,
      keymap' = keymap.put (Text.lower hostKey) key ∧
        Text.Numeral.hexadecimal? v.plain = some (key.val : Int) := by
  cases obstacle : v.obstacle? with
  | none =>
    have writable : v.isWritable := by rw [Value.isWritable, obstacle, Option.isNone_none]
    rw [addKey_of_shown obstacle]
    refine .single ?_ fun missed => ?_
    · rintro ⟨_, n, read, low, high⟩
      obtain ⟨key, found, isKey⟩ := parseKey_of_digit read low high
      exact ⟨_, by rw [found]; rfl, key, rfl, isKey⟩
    · have noDigit := fun digit => missed ⟨writable, digit⟩
      refine ⟨.invalidKey v.plain, by rw [parseKey_of_no_digit noDigit]; rfl, ?_⟩
      change _ = Error.about v _
      rw [Error.about, obstacle]
      rfl
  | some o =>
    have unwritable : ¬ v.isWritable := by simp [Value.isWritable, obstacle]
    rw [addKey_of_obstacle obstacle]
    refine .single (fun met => absurd met.1 unwritable) fun _ => ⟨_, rfl, ?_⟩
    change _ = Error.about v _
    rw [Error.about, obstacle]
    rfl

theorem checks_addKeys (start : Keymap) (entries : List (String × Value)) :
    Checks document (entries.map fun (_, v) => .key v) (entries.foldlM addKey start)
      (Maps entries start) := by
  induction entries generalizing start with
  | nil => exact .ok (Maps.refl start)
  | cons entry entries ih =>
    rw [List.foldlM_cons]
    refine (checks_addKey start entry.1 entry.2).bind ?_
    rintro _ ⟨key, rfl, read⟩
    exact (ih _).mono fun keymap rest => rest.cons read

theorem checks_readKeymap :
    Checks document
      ([.table "keymap" .listing] ++ (entriesOf document "keymap").map fun (_, v) => .key v)
      (readKeymap document) (ReadsKeymap document) := by
  by_cases missing : document.lookup "keymap" = none
  · -- The default has nothing to be checked.
    have none : entriesOf document "keymap" = [] := by rw [entriesOf, missing]
    have met : (Requirement.table "keymap" .listing).IsMet document := by
      simp [Requirement.IsMet, missing]
    rw [none, readKeymap, missing]
    refine .single (fun _ => ⟨_, rfl, ?_⟩) fun missed => absurd met missed
    rw [ReadsKeymap, missing]
    rfl
  · have given : ¬ (document.lookup "keymap").isNone := by rwa [Option.isNone_iff_eq_none]
    rw [readKeymap, if_neg given]
    refine (checks_tableOf "keymap" .listing).bind fun entries same => ?_
    subst same
    refine (checks_addKeys [] _).mono fun keymap maps => ?_
    rw [ReadsKeymap, if_neg given]
    exact maps

/-! ## All settings -/

theorem checks_ofDocument (document : List (String × Value)) :
    Checks document (requirements document) (ofDocument document) (Reads document) := by
  refine (checks_tableOf "display" .lookup).bind fun _ same => ?_
  subst same
  refine (checks_positive "display" "scale" 15 (by decide)).bind fun scale isScale => ?_
  refine (checks_colour "display" "foreground" ⟨255, 255, 255⟩).bind fun foreground isForeground => ?_
  refine (checks_colour "display" "background" ⟨0, 0, 0⟩).bind fun background isBackground => ?_
  refine (checks_tableOf "cpu" .lookup).bind fun _ same => ?_
  subst same
  refine (checks_positive "cpu" "cycles_per_frame" 10 (by decide)).bind fun cycles isCycles => ?_
  refine (checks_positive "cpu" "frame_rate" 60 (by decide)).bind fun rate isRate => ?_
  rw [← List.append_nil (_ :: _)]
  exact checks_readKeymap.bind fun keymap isKeymap =>
    .ok ⟨isScale, isForeground, isBackground, isCycles, isRate, rfl, isKeymap⟩

/-! ## Kinds of errors -/

/-- Whether an error tells that the configuration is at fault. -/
def Error.isOwn : Error → Bool
  | .malformed | .notPositive _ | .invalidColour _ | .invalidKey _ => true
  | .notTable _ _ | .numberTooLong | .tooDeep | .tooDeepToShow => false

/-- Whether it is told as a fault of the configuration that a requirement is not met. -/
def Requirement.IsTold (document : List (String × Value)) : Requirement → Prop
  | .table _ _ => False
  | .positive _ _ => True
  | .colour parent name => ∀ v, valueAt? document parent name = some v → v.isWritable
  | .key v => v.isWritable

theorem isOwn_about (v : Value) {e : Error} (own : e.isOwn) :
    (Error.about v e).isOwn ↔ v.isWritable := by
  rw [Error.about, Value.isWritable]
  cases v.obstacle? with
  | none => exact iff_of_true own rfl
  | some obstacle => cases obstacle <;> simp [Error.ofObstacle, Error.isOwn]

theorem isOwn_iff_of_refuses {r : Requirement} {e : Error} (refuses : r.Refuses document e) :
    e.isOwn ↔ r.IsTold document := by
  cases r with
  | table name use =>
    obtain ⟨v, _, rfl⟩ := refuses
    exact iff_of_false nofun id
  | positive parent name =>
    obtain rfl : e = .notPositive name := refuses
    exact iff_of_true rfl trivial
  | colour parent name =>
    obtain ⟨v, found, rfl⟩ := refuses
    have isTold : (Requirement.colour parent name).IsTold document ↔ v.isWritable := by
      refine ⟨fun told => told v found, fun writable v' same => ?_⟩
      obtain rfl := Option.some.inj (found.symm.trans same)
      exact writable
    rw [isTold]
    exact isOwn_about v rfl
  | key v =>
    obtain rfl : e = _ := refuses
    exact isOwn_about v rfl

/-- Whether a text is refused for a reason that is not told as a fault of the configuration: a
    number in it is too long or a value in it too deep, or the first requirement that its document
    does not meet is one for a table, or one for a value that cannot be shown. -/
def Misfit (text : String) : Prop :=
  match Toml.parse text with
  | .error e => e ≠ .malformed
  | .ok document => ∃ before r after, requirements document = before ++ r :: after ∧
      (∀ q ∈ before, q.IsMet document) ∧ ¬ r.IsMet document ∧ ¬ r.IsTold document

/-- Whether a value can be a seed: a number, a text or nothing. -/
def IsSeed : Option Value → Prop
  | none | some .null | some (.boolean _) | some (.integer _) | some (.float _)
  | some (.text _) => True
  | some (.array _) | some (.table _) | some (.date _) | some (.time _)
  | some (.dateTime _) => False

theorem source?_isSome_iff (entropy : Int) (seed : Option Value) :
    (source? entropy seed).isSome ↔ IsSeed seed := by
  cases seed with
  | none => exact iff_of_true rfl trivial
  | some v => cases v <;> simp [source?, IsSeed]

theorem eq_of_first_missed {before before' after after' : List Requirement} {r r' : Requirement}
    (same : before ++ r :: after = before' ++ r' :: after')
    (met : ∀ q ∈ before, q.IsMet document) (missed : ¬ r.IsMet document)
    (met' : ∀ q ∈ before', q.IsMet document) (missed' : ¬ r'.IsMet document) :
    r = r' := by
  induction before generalizing before' with
  | nil =>
    cases before' with
    | nil => exact (List.cons.inj same).1
    | cons q before' =>
      obtain ⟨rfl, _⟩ := List.cons.inj same
      exact absurd (met' _ List.mem_cons_self) missed
  | cons q before ih =>
    cases before' with
    | nil =>
      obtain ⟨rfl, _⟩ := List.cons.inj same
      exact absurd (met _ List.mem_cons_self) missed'
    | cons q' before' =>
      exact ih (List.cons.inj same).2 (List.forall_mem_cons.mp met).2
        (List.forall_mem_cons.mp met').2

/-- A text makes settings exactly if it is a document that meets all requirements. Otherwise the
    error tells that the configuration is at fault, unless the text is a misfit. The seed is taken
    over as it stands, and there are random bytes for it exactly if it can be a seed. -/
theorem parse_outcome (text : String) (entropy : Int) :
    (∃ settings document, parse text = .ok settings ∧ Toml.parse text = .ok document ∧
      (∀ r ∈ requirements document, r.IsMet document) ∧
        settings.seed = valueAt? document "cpu" "seed" ∧
          ((source? entropy settings.seed).isSome ↔ IsSeed settings.seed)) ∨
      ∃ e, parse text = .error e ∧ (e.isOwn ↔ ¬ Misfit text) := by
  rw [parse, Misfit]
  cases read : Toml.parse text with
  | error e =>
    right
    cases e with
    | malformed => exact ⟨_, rfl, iff_of_true rfl (by simp)⟩
    | numberTooLong | tooDeep => exact ⟨_, rfl, iff_of_false nofun (by simp)⟩
  | ok document =>
    dsimp only
    cases checks_ofDocument document with
    | met all answers holds =>
      exact .inl ⟨_, document, answers, rfl, all, holds.seed, source?_isSome_iff entropy _⟩
    | unmet split all missed refuses fails =>
      refine .inr ⟨_, fails, ?_⟩
      rw [isOwn_iff_of_refuses refuses]
      constructor
      · rintro told ⟨before, r, after, split', all', missed', untold⟩
        exact untold (eq_of_first_missed (split.symm.trans split') all missed all' missed' ▸ told)
      · intro fit
        by_contra untold
        exact fit ⟨_, _, _, split, all, missed, untold⟩

example : parse "display = 5" = .error (.notTable (.integer 5) .lookup) := by cbv

end Settings

end ChipEight
