/-!
# Computations that can fail

What a computation comes to whose first part is known. The lemmas are stated of any continuation, so
that a proof can go on with it without opening the computation again.
-/

namespace ChipEight

/-- Goes on with the result of a part of a computation, and from the state that it left, unless it
    failed. -/
theorem bind_apply {ε σ α β : Type} (x : EStateM ε σ α) (next : α → EStateM ε σ β) (s : σ) :
    (x >>= next) s =
      match x s with
      | .ok a s' => next a s'
      | .error e s' => .error e s' :=
  EStateM.run_bind x next

theorem ok_bind {ε α β : Type} (a : α) (next : α → Except ε β) :
    (Except.ok a >>= next) = next a := rfl

theorem error_bind {ε α β : Type} (e : ε) (next : α → Except ε β) :
    (Except.error e >>= next) = .error e := rfl

end ChipEight
