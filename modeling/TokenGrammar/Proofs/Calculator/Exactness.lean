import Mathlib.Algebra.Group.Int.Defs
import TokenGrammar.Calculator.Expr

/-!
# Evaluation and exact arithmetic

Evaluation works on 64-bit integers and checks every result. It gives the value that the expression
has over the unbounded integers when all values on the way fit, and otherwise the error of the first
operation that has no value or one that does not fit.
-/

namespace TokenGrammar

/-- The integers that 64 bits with a sign can hold. -/
def Fits (value : Int) : Prop := -2 ^ 63 ≤ value ∧ value < 2 ^ 63

instance (value : Int) : Decidable (Fits value) := inferInstanceAs (Decidable (_ ∧ _))

theorem fits_toInt (n : Int64) : Fits n.toInt := ⟨n.le_toInt, n.toInt_lt⟩

theorem Text.toInt64?_eq_ite (value : Int) :
    toInt64? value = if Fits value then some (Int64.ofInt value) else none := by
  have hmin : Int64.minValue.toInt = -2 ^ 63 := by decide
  have hmax : Int64.maxValue.toInt = 2 ^ 63 - 1 := by decide
  have hbounds : Int64.minValue.toInt ≤ value ∧ value ≤ Int64.maxValue.toInt ↔ Fits value := by
    rw [hmin, hmax, Fits]
    omega
  simp only [toInt64?, hbounds]

/-- A quotient is not larger than what is divided, so only one of them leaves the range. -/
theorem fits_tdiv_iff {a b : Int} (ha : Fits a) (hzero : b ≠ 0) :
    Fits (a.tdiv b) ↔ ¬(a = -2 ^ 63 ∧ b = -1) := by
  unfold Fits at *
  by_cases hone : b.natAbs = 1
  · obtain rfl | rfl : b = 1 ∨ b = -1 := by omega
    · rw [Int.tdiv_one]
      omega
    · rw [Int.tdiv_neg, Int.tdiv_one]
      omega
  · have habs : (a.tdiv b).natAbs = a.natAbs / b.natAbs := Int.natAbs_tdiv a b
    have hhalf : a.natAbs / b.natAbs ≤ a.natAbs / 2 :=
      Nat.div_le_div_left (by omega) Nat.two_pos
    omega

namespace Operator

/-- **One operation** divides by zero, gives the exact result, or has a result that is too large. -/
theorem apply_cases (operator : Operator) (a b : Int64) :
    (operator = div ∧ b.toInt = 0 ∧ operator.apply a b = .error .divisionByZero) ∨
    ((operator = div → b.toInt ≠ 0) ∧
      ((∃ n, operator.apply a b = .ok n ∧ operator.exact a.toInt b.toInt = n.toInt) ∨
        ¬Fits (operator.exact a.toInt b.toInt) ∧
          operator.apply a b = .error (.overflow operator))) := by
  have hb : b = 0 ↔ b.toInt = 0 := by rw [← Int64.toInt_inj, Int64.toInt_zero]
  unfold apply
  simp only [hb]
  by_cases hdivides : operator = div ∧ b.toInt = 0
  · exact Or.inl ⟨hdivides.1, hdivides.2, if_pos hdivides⟩
  · refine Or.inr ⟨fun hdiv hzero => hdivides ⟨hdiv, hzero⟩, ?_⟩
    rw [if_neg hdivides]
    by_cases hfits : Fits (operator.exact a.toInt b.toInt)
    · refine Or.inl ⟨Int64.ofInt (operator.exact a.toInt b.toInt), ?_, ?_⟩
      · rw [Text.toInt64?_eq_ite, if_pos hfits]
      · exact (Int64.toInt_ofInt_of_le hfits.1 hfits.2).symm
    · refine Or.inr ⟨hfits, ?_⟩
      rw [Text.toInt64?_eq_ite, if_neg hfits]

end Operator

namespace Expr

/-! ### Exact values -/

/-- The exact value of an expression: no bound on the integers, and quotients without their
fraction. An expression that divides by zero somewhere has none. -/
inductive HasValue : Expr → Int → Prop where
  | number (n : Int64) : HasValue (number n) n.toInt
  | add {left right : Expr} {a b : Int} (hleft : HasValue left a) (hright : HasValue right b) :
    HasValue (binary .add left right) (a + b)
  | sub {left right : Expr} {a b : Int} (hleft : HasValue left a) (hright : HasValue right b) :
    HasValue (binary .sub left right) (a - b)
  | mul {left right : Expr} {a b : Int} (hleft : HasValue left a) (hright : HasValue right b) :
    HasValue (binary .mul left right) (a * b)
  | div {left right : Expr} {a b : Int} (hleft : HasValue left a) (hright : HasValue right b)
    (hzero : b ≠ 0) : HasValue (binary .div left right) (a.tdiv b)

theorem hasValue_binary_iff {operator : Operator} {left right : Expr} {value : Int} :
    (binary operator left right).HasValue value ↔
      ∃ a b, left.HasValue a ∧ right.HasValue b ∧ (operator = .div → b ≠ 0) ∧
        operator.exact a b = value := by
  constructor
  · intro h
    cases h with
    | add hleft hright => exact ⟨_, _, hleft, hright, nofun, rfl⟩
    | sub hleft hright => exact ⟨_, _, hleft, hright, nofun, rfl⟩
    | mul hleft hright => exact ⟨_, _, hleft, hright, nofun, rfl⟩
    | div hleft hright hzero => exact ⟨_, _, hleft, hright, fun _ => hzero, rfl⟩
  · rintro ⟨a, b, hleft, hright, hzero, rfl⟩
    cases operator with
    | add => exact .add hleft hright
    | sub => exact .sub hleft hright
    | mul => exact .mul hleft hright
    | div => exact .div hleft hright (hzero rfl)

theorem HasValue.unique {expr : Expr} {value value' : Int} (h : expr.HasValue value)
    (h' : expr.HasValue value') : value = value' := by
  induction expr generalizing value value' with
  | number n =>
    cases h
    cases h'
    rfl
  | binary operator left right ihleft ihright =>
    obtain ⟨a, b, hleft, hright, -, rfl⟩ := hasValue_binary_iff.1 h
    obtain ⟨a', b', hleft', hright', -, rfl⟩ := hasValue_binary_iff.1 h'
    rw [ihleft hleft hleft', ihright hright hright']

def Representable (expr : Expr) : Prop := ∃ value, expr.HasValue value ∧ Fits value

theorem HasValue.fits {expr : Expr} {value : Int} (h : expr.HasValue value)
    (hrepresentable : expr.Representable) : Fits value := by
  obtain ⟨value', hvalue', hfits⟩ := hrepresentable
  rwa [h.unique hvalue']

/-- What is wrong with the last operation of an expression. -/
inductive Fails : Expr → EvalError → Prop where
  | divisionByZero {left right : Expr} (hzero : right.HasValue 0) :
    Fails (binary .div left right) .divisionByZero
  | overflow {operator : Operator} {left right : Expr} {value : Int}
    (hvalue : (binary operator left right).HasValue value) (hlarge : ¬Fits value) :
    Fails (binary operator left right) (.overflow operator)

theorem not_hasValue_div_zero {left right : Expr} {value : Int} (hzero : right.HasValue 0) :
    ¬(binary .div left right).HasValue value := by
  rintro (_ | _ | _ | _ | ⟨-, hright, hne⟩)
  exact hne (hright.unique hzero)

theorem Fails.not_representable {expr : Expr} {error : EvalError} (h : expr.Fails error) :
    ¬expr.Representable := by
  intro hrepresentable
  cases h with
  | divisionByZero hzero =>
    obtain ⟨value, hvalue, -⟩ := hrepresentable
    exact not_hasValue_div_zero hzero hvalue
  | overflow hvalue hlarge => exact hlarge (hvalue.fits hrepresentable)

theorem Fails.unique {expr : Expr} {error error' : EvalError} (h : expr.Fails error)
    (h' : expr.Fails error') : error = error' := by
  cases h with
  | divisionByZero hzero =>
    cases h' with
    | divisionByZero => rfl
    | overflow hvalue => exact absurd hvalue (not_hasValue_div_zero hzero)
  | overflow hvalue =>
    cases h' with
    | divisionByZero hzero => exact absurd hvalue (not_hasValue_div_zero hzero)
    | overflow => rfl

theorem fails_overflow_div_iff {left right : Expr} (hrepresentable : left.Representable) :
    (binary .div left right).Fails (.overflow .div) ↔
      left.HasValue (-2 ^ 63) ∧ right.HasValue (-1) := by
  constructor
  · rintro (_ | ⟨hvalue, hlarge⟩)
    obtain ⟨a, b, hleft, hright, hzero, rfl⟩ := hasValue_binary_iff.1 hvalue
    rw [Operator.exact, fits_tdiv_iff (hleft.fits hrepresentable) (hzero rfl),
      Classical.not_not] at hlarge
    obtain ⟨rfl, rfl⟩ := hlarge
    exact ⟨hleft, hright⟩
  · rintro ⟨hleft, hright⟩
    exact .overflow (.div hleft hright (by decide)) (by decide)

/-! ### Parts in the order of evaluation -/

/-- The expression and all its parts, each behind its own parts, from left to right. -/
def postorder : Expr → List Expr
  | number n => [number n]
  | binary operator left right =>
    left.postorder ++ (right.postorder ++ [binary operator left right])

theorem mem_postorder_self (expr : Expr) : expr ∈ expr.postorder := by
  cases expr with
  | number n => exact List.mem_singleton_self _
  | binary operator left right => simp [postorder]

theorem forall_mem_postorder_binary {operator : Operator} {left right : Expr}
    {motive : Expr → Prop} :
    (∀ part ∈ (binary operator left right).postorder, motive part) ↔
      (∀ part ∈ left.postorder, motive part) ∧ (∀ part ∈ right.postorder, motive part) ∧
        motive (binary operator left right) := by
  simp only [postorder, List.forall_mem_append, List.forall_mem_singleton]

/-- Where an element stands in two lists, one behind the other. -/
theorem append_eq_append_cons {xs ys before after : List Expr} {part : Expr}
    (h : xs ++ ys = before ++ part :: after) :
    (∃ between, xs = before ++ part :: between) ∨
      ∃ between, before = xs ++ between ∧ ys = between ++ part :: after := by
  obtain ⟨between, hbefore, hys⟩ | ⟨between, hxs, hrest⟩ := List.append_eq_append_iff.1 h
  · exact Or.inr ⟨between, hbefore, hys⟩
  · cases between with
    | nil => exact Or.inr ⟨[], by rw [hxs, List.append_nil, List.append_nil], hrest.symm⟩
    | cons head between =>
      cases hrest
      exact Or.inl ⟨between, hxs⟩

/-- An operation comes behind both its operands. -/
theorem operands_before {expr left right : Expr} {operator : Operator} {before after : List Expr}
    (h : expr.postorder = before ++ binary operator left right :: after) :
    left ∈ before ∧ right ∈ before := by
  induction expr generalizing before after with
  | number n =>
    have hmem : binary operator left right ∈ (number n).postorder := by simp [h]
    cases List.mem_singleton.1 hmem
  | binary operator' left' right' ihleft ihright =>
    obtain ⟨between, hleft⟩ | ⟨between, rfl, hrest⟩ := append_eq_append_cons h
    · exact ihleft hleft
    · obtain ⟨last, hright⟩ | ⟨last, rfl, hlast⟩ := append_eq_append_cons hrest
      · obtain ⟨hl, hr⟩ := ihright hright
        exact ⟨List.mem_append_right _ hl, List.mem_append_right _ hr⟩
      · -- Behind the parts of both operands there is only the whole expression.
        have hmem : binary operator left right ∈ [binary operator' left' right'] := by simp [hlast]
        cases List.mem_singleton.1 hmem
        simp [mem_postorder_self]

/-- The error belongs to the first part that has no exact value or one that does not fit. -/
def FailsFirst (expr : Expr) (error : EvalError) : Prop :=
  ∃ before failing after, expr.postorder = before ++ failing :: after ∧
    (∀ part ∈ before, part.Representable) ∧ failing.Fails error

namespace FailsFirst

variable {expr left right : Expr} {operator : Operator} {error error' : EvalError}

theorem of_left (h : left.FailsFirst error) : (binary operator left right).FailsFirst error := by
  obtain ⟨before, failing, after, hsplit, hbefore, hfails⟩ := h
  refine ⟨before, failing, after ++ (right.postorder ++ [binary operator left right]), ?_, hbefore,
    hfails⟩
  rw [postorder, hsplit, List.append_assoc, List.cons_append]

theorem of_right (hleft : ∀ part ∈ left.postorder, part.Representable)
    (h : right.FailsFirst error) : (binary operator left right).FailsFirst error := by
  obtain ⟨before, failing, after, hsplit, hbefore, hfails⟩ := h
  refine ⟨left.postorder ++ before, failing, after ++ [binary operator left right], ?_,
    List.forall_mem_append.2 ⟨hleft, hbefore⟩, hfails⟩
  rw [postorder, hsplit, List.append_assoc, List.append_assoc, List.cons_append]

theorem of_last (hleft : ∀ part ∈ left.postorder, part.Representable)
    (hright : ∀ part ∈ right.postorder, part.Representable)
    (h : (binary operator left right).Fails error) :
    (binary operator left right).FailsFirst error :=
  ⟨left.postorder ++ right.postorder, _, [], (List.append_assoc _ _ _).symm,
    List.forall_mem_append.2 ⟨hleft, hright⟩, h⟩

theorem exists_not_representable (h : expr.FailsFirst error) :
    ∃ part ∈ expr.postorder, ¬part.Representable := by
  obtain ⟨before, failing, after, hsplit, -, hfails⟩ := h
  exact ⟨failing, by simp [hsplit], hfails.not_representable⟩

theorem unique (h : expr.FailsFirst error) (h' : expr.FailsFirst error') : error = error' := by
  obtain ⟨before, failing, after, hsplit, hbefore, hfails⟩ := h
  obtain ⟨before', failing', after', hsplit', hbefore', hfails'⟩ := h'
  rw [hsplit] at hsplit'
  obtain ⟨between, rfl⟩ | ⟨between, rfl, hrest⟩ := append_eq_append_cons hsplit'
  · exact absurd (hbefore failing' (by simp)) hfails'.not_representable
  · cases between with
    | nil =>
      cases hrest
      exact hfails.unique hfails'
    | cons part between =>
      cases hrest
      exact absurd (hbefore' failing (by simp)) hfails.not_representable

end FailsFirst

/-! ### Evaluation -/

/-- **A whole evaluation** by the cases of its operations: all parts fit, or one fails first. -/
theorem evaluate_cases (expr : Expr) :
    (∃ n, expr.evaluate = .ok n ∧ expr.HasValue n.toInt ∧
      ∀ part ∈ expr.postorder, part.Representable) ∨
    ∃ error, expr.evaluate = .error error ∧ expr.FailsFirst error := by
  induction expr with
  | number n =>
    refine Or.inl ⟨n, rfl, .number n, ?_⟩
    rw [postorder, List.forall_mem_singleton]
    exact ⟨n.toInt, .number n, fits_toInt n⟩
  | binary operator left right ihleft ihright =>
    obtain ⟨a, hevalleft, hleft, hfitleft⟩ | ⟨error, hevalleft, hfails⟩ := ihleft
    · obtain ⟨b, hevalright, hright, hfitright⟩ | ⟨error, hevalright, hfails⟩ := ihright
      · have heval : (binary operator left right).evaluate = operator.apply a b := by
          rw [evaluate, hevalleft, hevalright]
          rfl
        rw [heval]
        obtain ⟨rfl, hzero, happly⟩ | ⟨hzero, ⟨n, happly, hexact⟩ | ⟨hlarge, happly⟩⟩ :=
          operator.apply_cases a b
        · rw [hzero] at hright
          exact Or.inr ⟨_, happly, .of_last hfitleft hfitright (.divisionByZero hright)⟩
        · have hvalue : (binary operator left right).HasValue n.toInt :=
            hasValue_binary_iff.2 ⟨_, _, hleft, hright, hzero, hexact⟩
          exact Or.inl ⟨n, happly, hvalue, forall_mem_postorder_binary.2
            ⟨hfitleft, hfitright, n.toInt, hvalue, fits_toInt n⟩⟩
        · have hvalue := hasValue_binary_iff.2 ⟨_, _, hleft, hright, hzero, rfl⟩
          exact Or.inr ⟨_, happly, .of_last hfitleft hfitright (.overflow hvalue hlarge)⟩
      · have heval : (binary operator left right).evaluate = .error error := by
          rw [evaluate, hevalleft, hevalright]
          rfl
        exact Or.inr ⟨error, heval, hfails.of_right hfitleft⟩
    · have heval : (binary operator left right).evaluate = .error error := by
        rw [evaluate, hevalleft]
        rfl
      exact Or.inr ⟨error, heval, hfails.of_left⟩

/-- **Checked evaluation is exact arithmetic.** It gives a number exactly when that is the exact
value of the expression and all parts have exact values that fit. It gives an error exactly when
that belongs to the first part, in the order of evaluation, for which this is not so: a division by
zero, or a value that does not fit, with the operator of that part. For a division this only is the
smallest integer divided by -1. -/
theorem evaluate_exact (expr : Expr) :
    (∀ n, expr.evaluate = .ok n ↔
      expr.HasValue n.toInt ∧ ∀ part ∈ expr.postorder, part.Representable) ∧
    (∀ error, expr.evaluate = .error error ↔
      ∃ before failing after, expr.postorder = before ++ failing :: after ∧
        (∀ part ∈ before, part.Representable) ∧ failing.Fails error) ∧
    (expr.evaluate = .error (.overflow .div) ↔
      ∃ before left right after, expr.postorder = before ++ binary .div left right :: after ∧
        (∀ part ∈ before, part.Representable) ∧
        left.HasValue (-2 ^ 63) ∧ right.HasValue (-1)) := by
  have herror : ∀ error, expr.evaluate = .error error ↔ expr.FailsFirst error := by
    intro error
    obtain ⟨n, heval, -, hfit⟩ | ⟨error', heval, hfails⟩ := expr.evaluate_cases
    · rw [heval]
      refine ⟨nofun, fun hfails => ?_⟩
      obtain ⟨part, hpart, hnot⟩ := hfails.exists_not_representable
      exact absurd (hfit part hpart) hnot
    · rw [heval, Except.error.injEq]
      exact ⟨fun h => h ▸ hfails, hfails.unique⟩
  refine ⟨fun n => ?_, herror, ?_⟩
  · obtain ⟨n', heval, hvalue, hfit⟩ | ⟨error, heval, hfails⟩ := expr.evaluate_cases
    · rw [heval, Except.ok.injEq]
      constructor
      · rintro rfl
        exact ⟨hvalue, hfit⟩
      · intro h
        exact Int64.toInt_inj.1 (hvalue.unique h.1)
    · rw [heval]
      refine ⟨nofun, fun h => ?_⟩
      obtain ⟨part, hpart, hnot⟩ := hfails.exists_not_representable
      exact absurd (h.2 part hpart) hnot
  · rw [herror]
    constructor
    · rintro ⟨before, failing, after, hsplit, hbefore, hfails⟩
      obtain ⟨left, right, rfl⟩ : ∃ left right, failing = binary .div left right := by
        cases hfails
        exact ⟨_, _, rfl⟩
      have hleft := hbefore left (operands_before hsplit).1
      exact ⟨before, left, right, after, hsplit, hbefore, (fails_overflow_div_iff hleft).1 hfails⟩
    · rintro ⟨before, left, right, after, hsplit, hbefore, hvalues⟩
      have hleft := hbefore left (operands_before hsplit).1
      exact ⟨before, _, after, hsplit, hbefore, (fails_overflow_div_iff hleft).2 hvalues⟩

-- The product is evaluated before the quotient, so its error is the one that is reported.
example : evaluate (.binary .add (.binary .mul (.number Int64.maxValue) (.number 2))
    (.binary .div (.number 1) (.number 0))) = .error (.overflow .mul) := by rfl

end Expr

end TokenGrammar
