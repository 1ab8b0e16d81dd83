import TokenGrammar.Calculator.Basic

/-!
# The language of the calculator

The grammar of expressions as a relation between lists of tokens and trees, apart from any parser.
A token list is followed from left to right in phases: an operand is due, or an operand has just
ended, at some depth of parentheses. A list that can be followed is one that can be completed to a
sentence.
-/

namespace TokenGrammar

def Expr.literals : Expr → List Int64
  | number n => [n]
  | binary _ left right => left.literals ++ right.literals

namespace Calculator

/-! ### Terminals -/

/-- What a token stands for in an expression. -/
inductive Terminal where
  | number (n : Int64)
  | operator (operator : Operator)
  | opening
  | closing
deriving DecidableEq

/-- The value of a literal without a sign, if it fits into 64 bits. -/
def literal? (base : Nat) (digits : List Char) : Option Int64 :=
  (Text.natural? base digits).bind fun n =>
    if (n : Int) ≤ Int64.maxValue.toInt then some (Int64.ofNat n) else none

theorem literal?_nonneg {base : Nat} {digits : List Char} {n : Int64}
    (h : literal? base digits = some n) : 0 ≤ n.toInt := by
  obtain ⟨m, -, hfits⟩ := Option.bind_eq_some_iff.1 h
  split at hfits
  · next hle =>
    cases hfits
    rw [Int64.toInt_ofNat_of_lt]
    · exact Int.natCast_nonneg m
    · have hmax : Int64.maxValue.toInt = 2 ^ 63 - 1 := by decide
      omega
  · cases hfits

theorem literal?_eq_none_iff {base n : Nat} {digits : List Char}
    (h : Text.natural? base digits = some n) :
    literal? base digits = none ↔ Int64.maxValue.toInt < (n : Int) := by
  rw [literal?, h, Option.bind_some]
  split <;> simp_all

/-- Blank tokens stand for nothing, and neither does a literal that is too large. -/
def Vocabulary.terminal? (vocabulary : Vocabulary) (token : Token) : Option Terminal :=
  if vocabulary.hex.accepts token then (literal? 16 (token.text.toList.drop 2)).map .number
  else if vocabulary.decimal.accepts token then (literal? 10 token.text.toList).map .number
  else if vocabulary.operator.accepts token then (Operator.ofSymbol? token.text).map .operator
  else if vocabulary.opening.accepts token then some .opening
  else if vocabulary.closing.accepts token then some .closing
  else none

/-- A literal whose value does not fit into 64 bits. -/
def Vocabulary.TooLarge (vocabulary : Vocabulary) (token : Token) : Prop :=
  ∃ n : Nat, Int64.maxValue.toInt < (n : Int) ∧
    (vocabulary.hex.accepts token = true ∧
        Text.natural? 16 (token.text.toList.drop 2) = some n ∨
      vocabulary.decimal.accepts token = true ∧ Text.natural? 10 token.text.toList = some n)

theorem Vocabulary.terminal?_number_nonneg {vocabulary : Vocabulary} {token : Token} {n : Int64}
    (h : vocabulary.terminal? token = some (.number n)) : 0 ≤ n.toInt := by
  unfold terminal? at h
  split at h
  · obtain ⟨_, hliteral, ⟨⟩⟩ := Option.map_eq_some_iff.1 h
    exact literal?_nonneg hliteral
  split at h
  · obtain ⟨_, hliteral, ⟨⟩⟩ := Option.map_eq_some_iff.1 h
    exact literal?_nonneg hliteral
  split at h
  · obtain ⟨_, -, hother⟩ := Option.map_eq_some_iff.1 h
    cases hother
  split at h
  · cases h
  split at h
  · cases h
  · cases h

/-! ### Derivations -/

inductive Nonterminal where
  | number
  | atom
  | expr

/-- The token lists of each kind and their trees. Parentheses add no node. -/
inductive Derives (vocabulary : Vocabulary) : Nonterminal → List Token → Expr → Prop where
  | literal {token : Token} {n : Int64} (hnumber : vocabulary.terminal? token = some (.number n)) :
      Derives vocabulary .number [token] (.number n)
  | number {tokens : List Token} {e : Expr} (hnumber : Derives vocabulary .number tokens e) :
      Derives vocabulary .atom tokens e
  | parens {opening closing : Token} {tokens : List Token} {e : Expr}
      (hopening : vocabulary.terminal? opening = some .opening)
      (hexpr : Derives vocabulary .expr tokens e)
      (hclosing : vocabulary.terminal? closing = some .closing) :
      Derives vocabulary .atom (opening :: (tokens ++ [closing])) e
  | atom {tokens : List Token} {e : Expr} (hatom : Derives vocabulary .atom tokens e) :
      Derives vocabulary .expr tokens e
  | binary {symbol : Token} {operator : Operator} {left right : List Token} {l r : Expr}
      (hleft : Derives vocabulary .atom left l)
      (hsymbol : vocabulary.terminal? symbol = some (.operator operator))
      (hright : Derives vocabulary .expr right r) :
      Derives vocabulary .expr (left ++ symbol :: right) (.binary operator l r)

variable {vocabulary : Vocabulary} {tokens : List Token}

theorem Derives.literals_nonneg {kind : Nonterminal} {e : Expr}
    (h : Derives vocabulary kind tokens e) : ∀ n ∈ e.literals, 0 ≤ n.toInt := by
  induction h with
  | literal hnumber =>
    intro n hn
    rw [List.mem_singleton.1 hn]
    exact Vocabulary.terminal?_number_nonneg hnumber
  | number _ ih => exact ih
  | parens _ _ _ ih => exact ih
  | atom _ ih => exact ih
  | binary _ _ _ ihLeft ihRight =>
    intro n hn
    rcases List.mem_append.1 hn with hn | hn
    · exact ihLeft n hn
    · exact ihRight n hn

/-- A list that some further tokens make an expression. -/
def Viable (vocabulary : Vocabulary) (tokens : List Token) : Prop :=
  ∃ more e, Derives vocabulary .expr (tokens ++ more) e

/-! ### Phases -/

/-- What is due next, and in how many parentheses. -/
inductive Phase where
  | operand (depth : Nat)
  | operator (depth : Nat)
deriving DecidableEq

namespace Phase

def step : Phase → Terminal → Option Phase
  | operand depth, .number _ => some (operator depth)
  | operand depth, .opening => some (operand (depth + 1))
  | operator depth, .operator _ => some (operand depth)
  | operator (depth + 1), .closing => some (operator depth)
  | _, _ => none

def next (vocabulary : Vocabulary) (phase : Phase) (token : Token) : Option Phase :=
  (vocabulary.terminal? token).bind phase.step

def follow (vocabulary : Vocabulary) (phase : Phase) (tokens : List Token) : Option Phase :=
  tokens.foldlM (next vocabulary) phase

def deepen (depth : Nat) : Phase → Phase
  | operand own => operand (own + depth)
  | operator own => operator (own + depth)

theorem follow_append (phase : Phase) (first second : List Token) :
    phase.follow vocabulary (first ++ second) =
      (phase.follow vocabulary first).bind fun middle => middle.follow vocabulary second :=
  List.foldlM_append ..

theorem follow_cons (phase : Phase) (token : Token) (rest : List Token) :
    phase.follow vocabulary (token :: rest) =
      (phase.next vocabulary token).bind fun middle => middle.follow vocabulary rest :=
  List.foldlM_cons ..

theorem follow_nil (phase : Phase) : phase.follow vocabulary [] = some phase := rfl

theorem next_eq_step {token : Token} {terminal : Terminal}
    (hterminal : vocabulary.terminal? token = some terminal) (phase : Phase) :
    phase.next vocabulary token = phase.step terminal := by
  rw [next, hterminal, Option.bind_some]

theorem step_deepen {phase phase' : Phase} {terminal : Terminal}
    (h : phase.step terminal = some phase') (depth : Nat) :
    (phase.deepen depth).step terminal = some (phase'.deepen depth) := by
  unfold step at h
  split at h <;> cases h
  · rfl
  · rw [deepen, deepen, step, Nat.add_right_comm]
  · rfl
  · rw [deepen, deepen, Nat.succ_add]
    rfl

/-- What does not fit after an operand that is still open does not fit further inside either. -/
theorem step_deepen_eq_none {phase : Phase} {terminal : Terminal} (hopen : phase ≠ operator 0)
    (h : phase.step terminal = none) (depth : Nat) :
    (phase.deepen depth).step terminal = none := by
  cases phase with
  | operand own => cases terminal <;> first | rfl | cases h
  | operator own =>
    obtain ⟨own, rfl⟩ : ∃ n, own = n + 1 := ⟨own - 1, by
      have hne : own ≠ 0 := fun hzero => hopen (by rw [hzero])
      omega⟩
    cases terminal <;> first | rfl | cases h

theorem deepen_ne {phase : Phase} (hopen : phase ≠ operator 0) (depth : Nat) :
    phase.deepen depth ≠ operator 0 := by
  cases phase with
  | operand own => simp [deepen]
  | operator own =>
    intro heq
    have hzero : own + depth = 0 := operator.inj heq
    exact hopen (by rw [show own = 0 by omega])

theorem follow_deepen {phase phase' : Phase} (h : phase.follow vocabulary tokens = some phase')
    (depth : Nat) :
    (phase.deepen depth).follow vocabulary tokens = some (phase'.deepen depth) := by
  induction tokens generalizing phase with
  | nil =>
    cases h
    rfl
  | cons token rest ih =>
    rw [follow_cons] at h ⊢
    obtain ⟨middle, hnext, hrest⟩ := Option.bind_eq_some_iff.1 h
    obtain ⟨terminal, hterminal, hstep⟩ := Option.bind_eq_some_iff.1 hnext
    rw [next_eq_step hterminal, step_deepen hstep, Option.bind_some]
    exact ih hrest

end Phase

theorem Derives.follow {kind : Nonterminal} {e : Expr} (h : Derives vocabulary kind tokens e)
    (depth : Nat) :
    (Phase.operand depth).follow vocabulary tokens = some (.operator depth) := by
  induction h generalizing depth with
  | literal hnumber =>
    rw [Phase.follow_cons, Phase.next_eq_step hnumber]
    rfl
  | number _ ih => exact ih depth
  | parens hopening _ hclosing ih =>
    rw [Phase.follow_cons, Phase.next_eq_step hopening, Phase.step, Option.bind_some,
      Phase.follow_append, ih (depth + 1), Option.bind_some, Phase.follow_cons,
      Phase.next_eq_step hclosing]
    rfl
  | atom _ ih => exact ih depth
  | binary _ hsymbol _ ihLeft ihRight =>
    rw [Phase.follow_append, ihLeft depth, Option.bind_some, Phase.follow_cons,
      Phase.next_eq_step hsymbol, Phase.step, Option.bind_some]
    exact ihRight depth

theorem Viable.follow (h : Viable vocabulary tokens) :
    ∃ phase, (Phase.operand 0).follow vocabulary tokens = some phase := by
  obtain ⟨more, e, hderives⟩ := h
  have hfollow := hderives.follow 0
  rw [Phase.follow_append] at hfollow
  obtain ⟨phase, hphase, -⟩ := Option.bind_eq_some_iff.1 hfollow
  exact ⟨phase, hphase⟩

/-! ### Completions -/

/-- The token lists that lead from an ended operand in so many parentheses to the end of the
outermost expression. The flag tells whether an operator may come first. -/
inductive Closes (vocabulary : Vocabulary) : Bool → Nat → List Token → Prop where
  | done : Closes vocabulary false 0 []
  | close {closing : Token} {depth : Nat} {more : List Token}
      (hclosing : vocabulary.terminal? closing = some .closing)
      (hmore : Closes vocabulary true depth more) :
      Closes vocabulary false (depth + 1) (closing :: more)
  | ended {depth : Nat} {more : List Token} (hmore : Closes vocabulary false depth more) :
      Closes vocabulary true depth more
  | operate {symbol : Token} {operator : Operator} {depth : Nat} {right more : List Token}
      {e : Expr} (hsymbol : vocabulary.terminal? symbol = some (.operator operator))
      (hright : Derives vocabulary .expr right e) (hmore : Closes vocabulary false depth more) :
      Closes vocabulary true depth (symbol :: (right ++ more))

/-- The token lists that complete what has been followed up to a phase. -/
def Phase.Completes (vocabulary : Vocabulary) : Phase → List Token → Prop
  | .operand depth, more => ∃ operand rest e, more = operand ++ rest ∧
      Derives vocabulary .expr operand e ∧ Closes vocabulary false depth rest
  | .operator depth, more => Closes vocabulary true depth more

theorem Derives.completes {atom more : List Token} {l : Expr} {depth : Nat}
    (hatom : Derives vocabulary .atom atom l) (hmore : Closes vocabulary true depth more) :
    (Phase.operand depth).Completes vocabulary (atom ++ more) := by
  cases hmore with
  | ended hmore => exact ⟨atom, more, l, rfl, hatom.atom, hmore⟩
  | @operate symbol _ _ right rest _ hsymbol hright hmore =>
    refine ⟨atom ++ symbol :: right, rest, _, ?_, hatom.binary hsymbol hright, hmore⟩
    rw [List.append_assoc, List.cons_append]

namespace Phase

/-- **One step back.** A completion after a token gives one before it. -/
theorem completes_cons {phase phase' : Phase} {token : Token} {more : List Token}
    (hnext : phase.next vocabulary token = some phase') (hmore : phase'.Completes vocabulary more) :
    phase.Completes vocabulary (token :: more) := by
  obtain ⟨terminal, hterminal, hstep⟩ := Option.bind_eq_some_iff.1 hnext
  unfold step at hstep
  split at hstep <;> cases hstep
  · -- A number is due and comes.
    exact (Derives.number (.literal hterminal)).completes hmore
  · -- The inner expression, its closing parenthesis and the opening one are an atom.
    obtain ⟨operand, rest, e, rfl, hoperand, hrest⟩ := hmore
    cases hrest with
    | @close closing _ rest hclosing hrest =>
      have hcompletes := (hoperand.parens hterminal hclosing).completes hrest
      simpa using hcompletes
  · obtain ⟨operand, rest, e, rfl, hoperand, hrest⟩ := hmore
    exact .operate hterminal hoperand hrest
  · exact .ended (.close hterminal hmore)

theorem completes_append {phase phase' : Phase} {more : List Token}
    (hfollow : phase.follow vocabulary tokens = some phase')
    (hmore : phase'.Completes vocabulary more) :
    phase.Completes vocabulary (tokens ++ more) := by
  induction tokens generalizing phase with
  | nil =>
    cases hfollow
    exact hmore
  | cons token rest ih =>
    rw [follow_cons] at hfollow
    obtain ⟨middle, hnext, hrest⟩ := Option.bind_eq_some_iff.1 hfollow
    exact completes_cons hnext (ih hrest)

end Phase

section Viable

variable {number closing : Token} {n : Int64}
  (hnumber : vocabulary.terminal? number = some (.number n))
  (hclosing : vocabulary.terminal? closing = some .closing)

include hclosing in
theorem exists_closes (depth : Nat) : ∃ more, Closes vocabulary false depth more := by
  induction depth with
  | zero => exact ⟨[], .done⟩
  | succ depth ih =>
    obtain ⟨more, hmore⟩ := ih
    exact ⟨closing :: more, .close hclosing (.ended hmore)⟩

include hnumber hclosing

theorem Phase.exists_completes (phase : Phase) : ∃ more, phase.Completes vocabulary more := by
  cases phase with
  | operand depth =>
    obtain ⟨more, hmore⟩ := exists_closes hclosing depth
    exact ⟨_, (Derives.number (.literal hnumber)).completes (.ended hmore)⟩
  | operator depth =>
    obtain ⟨more, hmore⟩ := exists_closes hclosing depth
    exact ⟨more, .ended hmore⟩

/-- **Viable lists** are those that can be followed from the start. -/
theorem viable_iff_follow :
    Viable vocabulary tokens ↔
      ∃ phase, (Phase.operand 0).follow vocabulary tokens = some phase := by
  refine ⟨Viable.follow, ?_⟩
  rintro ⟨phase, hfollow⟩
  obtain ⟨more, hmore⟩ := phase.exists_completes hnumber hclosing
  obtain ⟨operand, rest, e, hsplit, hoperand, hrest⟩ := Phase.completes_append hfollow hmore
  cases hrest
  rw [List.append_nil] at hsplit
  exact ⟨more, e, hsplit ▸ hoperand⟩

end Viable

/-! ### One tree -/

def NoOperator (vocabulary : Vocabulary) (tokens : List Token) : Prop :=
  ∀ token, tokens.head? = some token →
    ∀ operator, vocabulary.terminal? token ≠ some (.operator operator)

/-- What two derivations of a kind from one list have in common, whatever follows. Only an
expression could go on, so there no operator may follow. -/
def Unique (vocabulary : Vocabulary) (kind : Nonterminal) (tokens : List Token) (e : Expr) : Prop :=
  ∀ {tokens' e' rest rest'}, Derives vocabulary kind tokens' e' →
    tokens ++ rest = tokens' ++ rest' →
    (kind = .expr → NoOperator vocabulary rest ∧ NoOperator vocabulary rest') →
    tokens = tokens' ∧ e = e'

theorem noOperator_cons {token : Token} {terminal : Terminal}
    (hterminal : vocabulary.terminal? token = some terminal)
    (hother : ∀ operator, terminal ≠ .operator operator) (rest : List Token) :
    NoOperator vocabulary (token :: rest) := by
  rintro _ ⟨⟩ operator hoperator
  rw [hterminal] at hoperator
  exact hother operator (Option.some.inj hoperator)

theorem Derives.number_ne_parens {number tokens rest rest' : List Token} {opening : Token}
    {e : Expr} (hnumber : Derives vocabulary .number number e)
    (hopening : vocabulary.terminal? opening = some .opening) :
    number ++ rest ≠ opening :: tokens ++ rest' := by
  cases hnumber with
  | literal hnumber =>
    intro heq
    obtain ⟨rfl, -⟩ := List.cons.inj heq
    rw [hnumber] at hopening
    cases hopening

/-- An operator after an atom shows that the expression has not ended. -/
theorem not_noOperator {atom more rest : List Token} {symbol : Token} {operator : Operator}
    (hsymbol : vocabulary.terminal? symbol = some (.operator operator))
    (heq : atom ++ symbol :: more = atom ++ rest) : ¬ NoOperator vocabulary rest := by
  intro hrest
  rw [← List.append_cancel_left heq] at hrest
  exact hrest symbol rfl operator hsymbol

theorem Derives.unique {kind : Nonterminal} {e : Expr} (h : Derives vocabulary kind tokens e) :
    Unique vocabulary kind tokens e := by
  induction h with
  | literal hnumber =>
    intro tokens' e' rest rest' h' heq _
    cases h' with
    | literal hnumber' =>
      obtain ⟨rfl, -⟩ := List.cons.inj heq
      rw [hnumber] at hnumber'
      cases hnumber'
      exact ⟨rfl, rfl⟩
  | number hnumber ih =>
    intro tokens' e' rest rest' h' heq _
    cases h' with
    | number hnumber' => exact ih hnumber' heq nofun
    | parens hopening _ _ => exact absurd heq (hnumber.number_ne_parens hopening)
  | @parens opening closing tokens e hopening _ hclosing ih =>
    intro tokens' e' rest rest' h' heq _
    cases h' with
    | number hnumber' => exact absurd heq.symm (hnumber'.number_ne_parens hopening)
    | @parens _ closing' tokens' _ _ hexpr' hclosing' =>
      simp only [List.cons_append, List.append_assoc, List.cons.injEq] at heq
      obtain ⟨rfl, heq⟩ := heq
      obtain ⟨rfl, rfl⟩ := ih hexpr' heq fun _ =>
        ⟨noOperator_cons hclosing nofun _, noOperator_cons hclosing' nofun _⟩
      obtain ⟨rfl, -⟩ := List.cons.inj (List.append_cancel_left heq)
      exact ⟨rfl, rfl⟩
  | atom hatom ih =>
    intro tokens' e' rest rest' h' heq hends
    cases h' with
    | atom hatom' => exact ih hatom' heq nofun
    | binary hleft' hsymbol' hright' =>
      rw [List.append_assoc, List.cons_append] at heq
      obtain ⟨rfl, -⟩ := ih hleft' heq nofun
      exact absurd (hends rfl).1 (not_noOperator hsymbol' heq.symm)
  | @binary symbol operator left right l r hleft hsymbol hright ihLeft ihRight =>
    intro tokens' e' rest rest' h' heq hends
    rw [List.append_assoc, List.cons_append] at heq
    cases h' with
    | atom hatom' =>
      obtain ⟨rfl, -⟩ := ihLeft hatom' heq nofun
      exact absurd (hends rfl).2 (not_noOperator hsymbol heq)
    | @binary symbol' operator' left' right' l' r' hleft' hsymbol' hright' =>
      rw [List.append_assoc, List.cons_append] at heq
      obtain ⟨rfl, rfl⟩ := ihLeft hleft' heq nofun
      obtain ⟨rfl, hrest⟩ := List.cons.inj (List.append_cancel_left heq)
      rw [hsymbol] at hsymbol'
      cases hsymbol'
      obtain ⟨rfl, rfl⟩ := ihRight hright' hrest hends
      exact ⟨rfl, rfl⟩

/-- **The grammar is unambiguous.** -/
theorem Derives.tree_unique {e e' : Expr} (h : Derives vocabulary .expr tokens e)
    (h' : Derives vocabulary .expr tokens e') : e = e' := by
  have hnil : NoOperator vocabulary [] := fun _ hhead => nomatch hhead
  exact (h.unique h' (rfl : tokens ++ [] = tokens ++ []) fun _ => ⟨hnil, hnil⟩).2

end Calculator

end TokenGrammar
