import ChipEight.Proofs.Assembly.Formed
import ChipEight.Proofs.Assembly.Reading

/-!
# Forms are read

Where a command is spelled in one of its forms with blanks between the tokens, that form reads it to
its end. No other form comes as far: all but two pairs of forms differ in a keyword or in the first
character of a token behind the pieces they have in common, and a jump to a label named like
register 0 is the shorter way to read a computed jump.
-/

namespace ChipEight.Assembly

/-! ## Layout -/

/-- Whether a token is a mark, which needs no blank beside it. -/
def isMark (token : Token) : Bool := token == [','] || token == [':']

/-- Tokens in a text with blanks and line ends in front of them. There are some between two tokens
    of which neither is a mark; `tight` tells whether the first token may do without. -/
inductive Spaced : (tight : Bool) → List Token → List Char → Prop
  | nil {tight : Bool} : Spaced tight [] []
  | cons {tight : Bool} {token : Token} {tokens : List Token} {text : List Char} (gap : List Char)
    (blank : ∀ x ∈ gap, isSeparator x) (apart : gap = [] → tight ∨ isMark token)
    (others : Spaced (isMark token) tokens text) :
    Spaced tight (token :: tokens) (gap ++ token ++ text)

/-- Whether no word would run on into one that begins right at the cursor. -/
def Cursor.Fresh (c : Cursor) : Prop :=
  ∀ x ∈ c.rest.head?, isSeparator x = false → c.before.all (!isKeywordChar ·)

theorem IsSolid.isMark_eq_false {token : Token} (solid : IsSolid token) : isMark token = false := by
  rw [isMark, Bool.or_eq_false_iff, beq_eq_false_iff_ne, beq_eq_false_iff_ne]
  constructor
  · rintro rfl
    exact absurd (solid.2 ',' List.mem_cons_self) (by decide)
  · rintro rfl
    exact absurd (solid.2 ':' List.mem_cons_self) (by decide)

/-- Behind a word, tokens begin with a delimiter. -/
theorem Spaced.ends {tokens : List Token} {text rest : List Char}
    (spaced : Spaced false tokens text) (ends : Ends rest) :
    Ends (text ++ rest) := by
  cases spaced with
  | nil => exact ends
  | @cons _ token tokens text gap blank apart others =>
    cases gap with
    | cons x gap => exact ends_cons (isDelimiter_of_isSeparator (blank x List.mem_cons_self))
    | nil =>
      obtain impossible | mark := apart rfl
      · cases impossible
      · obtain comma | colon := Bool.or_eq_true_iff.mp mark
        · rw [beq_iff_eq.mp comma]
          exact ends_cons (by decide)
        · rw [beq_iff_eq.mp colon]
          exact ends_cons (by decide)

theorem before_of_gap {c : Cursor} {gap : List Char} (blank : ∀ x ∈ gap, isSeparator x)
    (fresh : gap = [] → c.before.all (!isKeywordChar ·)) :
    (gap.getLast?.or c.before).all (!isKeywordChar ·) := by
  cases last : gap.getLast? with
  | none => exact fresh (List.getLast?_eq_none_iff.mp last)
  | some x =>
    have separates := blank x (List.mem_of_getLast? last)
    exact not_isKeywordChar_of_isDelimiter x (isDelimiter_of_isSeparator separates)

/-! ## Pieces -/

/-- Whether pieces that may be left out or repeated stand nowhere but at the end. -/
def endsWell : List Piece → Bool
  | [] => true
  | .optionalRegister :: ps | .numbers :: ps => ps.isEmpty
  | _ :: ps => endsWell ps

theorem proper_forms : ∀ f ∈ Form.all, (∀ p ∈ f.pieces, p.isProper) ∧ endsWell f.pieces := by decide

theorem isSolid_of_keyword {text : String} {token : Token} (proper : (Piece.word text).isProper)
    (spells : token.map capital = text.toList) : IsSolid token := by
  rw [Piece.isProper, Bool.and_eq_true, List.all_eq_true, bne_iff_ne] at proper
  refine isSolid_of_map_capital spells ?_ fun x mem => not_isDelimiter_of_isUpper (proper.1 x mem)
  intro nothing
  apply proper.2
  rw [String.toList_eq_nil_iff.mp nothing]

namespace Scan

variable {α β : Type} {c : Cursor} {gap text rest : List Char} {token : Token}

theorem optional_of_eq_some {p : Scan α} {a : α} {c' : Cursor} (found : p c = some (a, c')) :
    optional p c = some (some a, c') := orElse_of_eq_some _ (map_of_eq_some _ found)

theorem optional_of_eq_none {p : Scan α} (missing : p c = none) : optional p c = some (none, c) :=
  orElse_of_eq_none _ (map_of_eq_none _ missing)

/-- One token and then the others: together they are all the text that is passed. -/
theorem bind_of_ahead {p : Scan β} {next : β → Scan α} {b : β} {a : α}
    (found : p c = some (b, c.move (gap ++ token) (text ++ rest)))
    (others : next b (c.move (gap ++ token) (text ++ rest)) =
      some (a, (c.move (gap ++ token) (text ++ rest)).move text rest)) :
    (p >>= next) c = some (a, c.move (gap ++ token ++ text) rest) := by
  rw [bind_of_eq_some _ found, others, Cursor.move_move]

theorem afterComma_of_ahead {p : Scan β} {b : β} (blank : ∀ x ∈ gap, isSeparator x)
    (ahead : c.rest = gap ++ [','] ++ (text ++ rest))
    (found : p (c.move (gap ++ [',']) (text ++ rest)) =
      some (b, (c.move (gap ++ [',']) (text ++ rest)).move text rest)) :
    afterComma p c = some (b, c.move (gap ++ [','] ++ text) rest) :=
  bind_of_ahead (symbol_of_ahead (by decide) blank ahead) found

theorem afterComma_eq_none (p : Scan β) (noComma : next c.rest ≠ some ',') :
    afterComma p c = none :=
  bind_of_eq_none _ (symbol_eq_none noComma)

/-- All of the numbers with commas in front of them are read. -/
theorem more_of_ahead {literals : List Literal} {tokens : List Token}
    (spells : SpellsMore literals tokens) {tight : Bool} (spaced : Spaced tight tokens text)
    (ahead : c.rest = text ++ rest) (ends : Ends rest) (noComma : next rest ≠ some ',')
    (limit : Nat) (enough : text.length ≤ limit) :
    many (afterComma number) limit c = some (literals, c.move text rest) := by
  -- Each number shortens the text, so its length is enough as a limit.
  induction spells generalizing tight text c limit with
  | nil =>
    cases spaced
    have stays : c.move [] rest = c := by
      rw [← show c.rest = rest from ahead, Cursor.move_nil]
    rw [stays]
    cases limit with
    | zero => rfl
    | succ limit =>
      have noMore : afterComma number c = none := by
        apply afterComma_eq_none
        rwa [show c.rest = rest from ahead]
      exact bind_of_eq_some _ (optional_of_eq_none noMore)
  | @cons literal literals token tokens spelled others ih =>
    obtain _ | @⟨_, _, _, _, gap, blank, apart, spaced⟩ := spaced
    obtain _ | @⟨_, _, _, text, gap', blank', apart', spaced⟩ := spaced
    cases limit with
    | zero => simp at enough
    | succ limit =>
      rw [spelled.isSolid.isMark_eq_false] at spaced
      have found : afterComma number c =
          some (literal, c.move (gap ++ [','] ++ (gap' ++ token)) (text ++ rest)) := by
        refine afterComma_of_ahead blank ?_ (number_of_ahead spelled blank' rfl (spaced.ends ends))
        rw [ahead]
        simp only [List.append_assoc]
      have enoughThen : text.length ≤ limit := by
        simp only [List.length_append, List.length_cons] at enough
        omega
      have more := ih spaced (c := c.move (gap ++ [','] ++ (gap' ++ token)) (text ++ rest)) rfl
        limit enoughThen
      rw [many, bind_of_eq_some _ (optional_of_eq_some found)]
      change (do return literal :: (← many (afterComma number) limit) : Scan _) _ = _
      rw [bind_of_eq_some _ more, Cursor.move_move]
      simp only [List.append_assoc]
      rfl

theorem before_of_fresh (solid : IsSolid token) (blank : ∀ x ∈ gap, isSeparator x)
    (ahead : c.rest = gap ++ token ++ rest) (fresh : gap = [] → c.Fresh) :
    (gap.getLast?.or c.before).all (!isKeywordChar ·) := by
  apply before_of_gap blank
  intro nothing
  have head := solid.head?_all rest
  have isFresh := fresh nothing
  rw [nothing, List.nil_append] at ahead
  rw [Cursor.Fresh, ahead] at isFresh
  cases first : (token ++ rest).head? with
  | none =>
    rw [List.head?_eq_none_iff] at first
    exact absurd (List.append_eq_nil_iff.mp first).1 solid.1
  | some x =>
    rw [first] at head
    exact isFresh x first (by simpa using head)

theorem fresh_of_comma (c : Cursor) (gap rest : List Char) :
    (c.move (gap ++ [',']) rest).Fresh := by
  intro x _ _
  rw [Cursor.move, List.getLast?_append]
  rfl

/-- The pieces of a form are read where they are spelled. -/
theorem pieces_of_ahead {ps : List Piece} {build : Builder α ps} {tokens : List Token} {a : α}
    (spells : Spells ps build tokens a) (proper : ∀ p ∈ ps, p.isProper) (well : endsWell ps)
    {tight : Bool} (spaced : Spaced tight tokens text) (ahead : c.rest = text ++ rest)
    (fresh : tight → c.Fresh) (ends : Ends rest) (noComma : next rest ≠ some ',') :
    pieces ps build c = some (a, c.move text rest) := by
  -- Each case reads the tokens of one piece and leaves the cursor in front of the others.
  induction spells generalizing tight text c with
  | nil a =>
    cases spaced
    change some (a, c) = some (a, c.move [] rest)
    rw [← show c.rest = rest from ahead, Cursor.move_nil]
  | @word ps build tokens a word token spelled others ih =>
    obtain ⟨properWord, properOthers⟩ := List.forall_mem_cons.mp proper
    have solid := isSolid_of_keyword properWord spelled
    obtain _ | @⟨_, _, _, text, gap, blank, apart, spaced⟩ := spaced
    rw [solid.isMark_eq_false] at apart spaced
    rw [List.append_assoc] at ahead
    have before := before_of_fresh solid blank ahead fun nothing =>
      fresh ((apart nothing).resolve_right (by decide))
    have found := keyword_of_ahead solid spelled blank ahead before (spaced.ends ends)
    exact bind_of_ahead found (ih properOthers well spaced rfl
      (fun impossible => by cases impossible))
  | @comma ps build tokens a others ih =>
    obtain ⟨_, properOthers⟩ := List.forall_mem_cons.mp proper
    obtain _ | @⟨_, _, _, text, gap, blank, apart, spaced⟩ := spaced
    rw [List.append_assoc] at ahead
    have found := symbol_of_ahead (by decide) blank ahead
    exact bind_of_ahead found (ih properOthers well spaced rfl fun _ => fresh_of_comma c gap _)
  | @memory ps build tokens a token spelled others ih =>
    obtain ⟨_, properOthers⟩ := List.forall_mem_cons.mp proper
    have solid := isSolid_of_spellsIndex spelled
    obtain _ | @⟨_, _, _, text, gap, blank, apart, spaced⟩ := spaced
    rw [solid.isMark_eq_false] at spaced
    rw [List.append_assoc] at ahead
    have found := bracketedIndex_of_ahead spelled blank ahead
    exact bind_of_ahead found (ih properOthers well spaced rfl
      (fun impossible => by cases impossible))
  | @registerZero ps build tokens a letter isLetter others ih =>
    obtain ⟨_, properOthers⟩ := List.forall_mem_cons.mp proper
    have solid : IsSolid [letter, '0'] :=
      (SpellsRegister.intro (x := 0) letter '0' isLetter rfl).isSolid
    obtain _ | @⟨_, _, _, text, gap, blank, apart, spaced⟩ := spaced
    rw [solid.isMark_eq_false] at spaced
    rw [List.append_assoc] at ahead
    have found := registerZero_of_ahead isLetter blank ahead (spaced.ends ends)
    exact bind_of_ahead found (ih properOthers well spaced rfl
      (fun impossible => by cases impossible))
  | @register ps build tokens a x token spelled others ih =>
    obtain ⟨_, properOthers⟩ := List.forall_mem_cons.mp proper
    obtain _ | @⟨_, _, _, text, gap, blank, apart, spaced⟩ := spaced
    rw [spelled.isSolid.isMark_eq_false] at spaced
    rw [List.append_assoc] at ahead
    have found := register_of_ahead spelled blank ahead (spaced.ends ends)
    exact bind_of_ahead found (ih properOthers well spaced rfl
      (fun impossible => by cases impossible))
  | @omitted ps build tokens a others ih =>
    obtain ⟨_, properOthers⟩ := List.forall_mem_cons.mp proper
    -- Nothing else is spelled, and what comes next is no comma that would begin a second register.
    obtain rfl : ps = [] := List.isEmpty_iff.mp well
    cases others
    cases spaced
    have noMore : afterComma Scan.register c = none := by
      apply afterComma_eq_none
      rwa [show c.rest = rest from ahead]
    rw [pieces, bind_of_eq_some _ (optional_of_eq_none noMore)]
    exact ih properOthers rfl .nil ahead fresh
  | @given ps build tokens a x token spelled others ih =>
    obtain ⟨_, properOthers⟩ := List.forall_mem_cons.mp proper
    obtain rfl : ps = [] := List.isEmpty_iff.mp well
    obtain _ | @⟨_, _, _, _, gap, blank, apart, spaced⟩ := spaced
    obtain _ | @⟨_, _, _, text, gap', blank', apart', spaced⟩ := spaced
    rw [spelled.isSolid.isMark_eq_false] at spaced
    have found : afterComma Scan.register c =
        some (x, c.move (gap ++ [','] ++ (gap' ++ token)) (text ++ rest)) := by
      refine afterComma_of_ahead blank ?_ (register_of_ahead spelled blank' rfl (spaced.ends ends))
      rw [ahead]
      simp only [List.append_assoc]
    have more :=
        ih properOthers rfl spaced (c := c.move (gap ++ [','] ++ (gap' ++ token)) (text ++ rest))
      rfl (fun impossible => by cases impossible)
    rw [pieces, bind_of_eq_some _ (optional_of_eq_some found)]
    refine more.trans ?_
    rw [Cursor.move_move]
    simp only [List.append_assoc]
  | @number ps build tokens a literal token spelled others ih =>
    obtain ⟨_, properOthers⟩ := List.forall_mem_cons.mp proper
    obtain _ | @⟨_, _, _, text, gap, blank, apart, spaced⟩ := spaced
    rw [spelled.isSolid.isMark_eq_false] at spaced
    rw [List.append_assoc] at ahead
    have found := number_of_ahead spelled blank ahead (spaced.ends ends)
    exact bind_of_ahead found (ih properOthers well spaced rfl
      (fun impossible => by cases impossible))
  | @target ps build tokens a target token spelled others ih =>
    obtain ⟨_, properOthers⟩ := List.forall_mem_cons.mp proper
    obtain _ | @⟨_, _, _, text, gap, blank, apart, spaced⟩ := spaced
    rw [spelled.isSolid.isMark_eq_false] at spaced
    rw [List.append_assoc] at ahead
    have found := target_of_ahead spelled blank ahead (spaced.ends ends)
    exact bind_of_ahead found (ih properOthers well spaced rfl
      (fun impossible => by cases impossible))
  | @numbers ps build tokens more a first others token spelled spelledMore spelledRest ih =>
    obtain ⟨_, properOthers⟩ := List.forall_mem_cons.mp proper
    obtain rfl : ps = [] := List.isEmpty_iff.mp well
    cases spelledRest
    obtain _ | @⟨_, _, _, text, gap, blank, apart, spaced⟩ := spaced
    rw [spelled.isSolid.isMark_eq_false, List.append_nil] at spaced
    rw [List.append_assoc] at ahead
    have found := number_of_ahead spelled blank ahead (spaced.ends ends)
    have foundMore : all (afterComma Scan.number) (c.move (gap ++ token) (text ++ rest)) =
        some (others, (c.move (gap ++ token) (text ++ rest)).move text rest) := by
      refine more_of_ahead spelledMore spaced rfl ends noComma _ ?_
      rw [Cursor.move, List.length_append]
      exact Nat.le_add_right _ _
    rw [pieces]
    exact bind_of_ahead found (bind_of_eq_some _ foundMore)

end Scan

end ChipEight.Assembly
