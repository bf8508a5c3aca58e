import WikiMessage.Proofs.Markup.Agreement

/-!
# The bound on nesting

An expression is read alike at every depth that is not smaller than the length of the text, so the
bound that ties the grammar's knot cannot be observed. A rule hands to the rules inside it only
what is left after a character at least, which is why the length of the text is enough.
-/

namespace WikiMessage.Markup

open WikiMessage.Text Rule

variable {inner other : Scope → Rule Node} {n : Nat}

/-- The two rules for inner expressions agree in every scope on texts of at most this length. -/
def InnerAgree (n : Nat) (inner other : Scope → Rule Node) : Prop :=
  ∀ s, AgreeUpTo n (inner s) (other s)

theorem InnerAgree.onEnds (h : InnerAgree n inner other) {cs : List Char}
    (hc : cs.length ≤ n + 1) (s : Scope) : AgreeOnEnds cs.tail (inner s) (other s) :=
  (h s).onEnds (by simpa using hc)

theorem call_agree (hi : InnerAdvances inner) (h : InnerAgree n inner other) (s : Scope) :
    AgreeUpTo (n + 1) (call inner s) (call other s) :=
  fun _ hc => call_congr (hi s.argument) (h.onEnds hc s.argument)

theorem construct_agree (hi : InnerAdvances inner) (h : InnerAgree n inner other) (s : Scope) :
    AgreeUpTo (n + 1) (construct inner s) (construct other s) :=
  fun _ hc => construct_congr hi (h.onEnds hc) s

theorem expression_agree {n m : Nat} (h : n ≤ m) : InnerAgree n (expression n) (expression m) := by
  induction n generalizing m with
  | zero =>
    intro s cs hc
    obtain rfl := List.length_eq_zero_iff.mp (Nat.le_zero.mp hc)
    rw [(advances_expression 0 s).nil, (advances_expression m s).nil]
  | succ n ih =>
    cases m with
    | zero => cases h
    | succ m => exact construct_agree (advances_expression n) (ih (Nat.le_of_succ_le_succ h))

/-- Two depths that are not smaller than the length of the text cannot be told apart. -/
theorem expression_eq_of_length_le {n m : Nat} {cs : List Char} (hn : cs.length ≤ n)
    (hm : cs.length ≤ m) (s : Scope) : expression n s cs = expression m s cs := by
  rw [← expression_agree hn s (Nat.le_refl _), expression_agree hm s (Nat.le_refl _)]

/-- A call at the beginning of a text is read alike at two depths that can hold what is inside. -/
theorem call_expression_eq {n m : Nat} {cs : List Char} (hn : cs.length ≤ n + 1)
    (hm : cs.length ≤ m + 1) (s : Scope) : call (expression n) s cs = call (expression m) s cs := by
  rcases Nat.le_total n m with h | h
  · exact call_agree (advances_expression n) (expression_agree h) s hn
  · exact (call_agree (advances_expression m) (expression_agree h) s hm).symm

end WikiMessage.Markup
