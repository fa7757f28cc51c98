import AnswerDesk.Expr.Reader
import AnswerDesk.Proofs.Expr.Grammar

/-!
# `AnswerDesk.Proofs.Expr.Reader`: the reader accepts the grammar

`Expr.ofTokens` returns a tree exactly when the tokens before the first end mark derive
an expression with that tree, within the two limits. The two directions are shown apart,
since they follow different structures.

* Soundness (`sound_factor`, `sound_expression`) follows the reader: what a rule reads is
  derived, and what it returns is what is left. The loop `chain` carries the phrase read so
  far (`sound_chain`), once for both rules that have operators.
* Completeness (`read_of_derives`) follows the derivation, with any tokens behind the
  phrase. A rule does not stop behind a phrase of its own if an operator comes, so the
  statement is not that the phrase is read and the rest returned. It is that reading goes
  on as `resume` says: with the loop of that rule, at the tree of the phrase.

Trees only grow, so a tree that is low enough at the end was low enough at every operator
on the way.
-/

set_option autoImplicit false

namespace AnswerDesk.Expr

open Token (Kind)

/-- The phrase derives the tree within both limits. -/
def DerivesWithin (room : Nat) (n : Nonterminal) (ks : List Kind) (e : Expr) : Prop :=
  ∃ levels, Derives n ks e levels ∧ levels ≤ room ∧ e.height ≤ maxHeight

/-! ### The operators of a rule -/

theorem factorOp?_eq_some_iff {k : Kind} {op : Op} :
    factorOp? k = some op ↔ k = .operator op ∧ (op = .mul ∨ op = .div) := by
  cases k with
  | operator o => cases o <;> cases op <;> simp [factorOp?]
  | _ => simp [factorOp?]

theorem termOp?_eq_some_iff {k : Kind} {op : Op} :
    termOp? k = some op ↔ k = .operator op ∧ (op = .add ∨ op = .sub) := by
  cases k with
  | operator o => cases o <;> cases op <;> simp [termOp?]
  | _ => simp [termOp?]

/-- The next token, if there is one, does not continue a chain of these operators. -/
def Stops (op? : Kind → Option Op) (rest : List Token) : Prop :=
  ∀ t ∈ rest.head?, op? t.kind = none

/-- A chain ends before a token that does not continue it. -/
theorem chain_of_stops {operand : Rule} {op? : Kind → Option Op} {left : Expr}
    {rest : List Token} (h : Stops op? rest) : chain operand op? left rest = .ok (left, rest) := by
  cases rest with
  | nil => rw [chain]
  | cons t rest =>
      have ht : op? t.kind = none := h t rfl
      rw [chain, ht]

/-- A chain takes an operator of its own together with the operand behind it. -/
theorem chain_of_operand {operand : Rule} {op? : Kind → Option Op} {left right : Expr}
    {op : Op} {t : Token} {ts rest : List Token} (ht : op? t.kind = some op)
    (hright : operand ts = .ok (right, rest))
    (hheight : (Expr.binary op left right).height ≤ maxHeight) :
    chain operand op? left (t :: ts) = chain operand op? (.binary op left right) rest := by
  rw [chain, ht]
  simp only [hright, hheight, dif_pos]

/-- An operator of the chain whose operand cannot be read ends the chain with that
error. -/
theorem chain_of_error {operand : Rule} {op? : Kind → Option Op} {left : Expr} {op : Op}
    {t : Token} {ts : List Token} {err : GrammarError} (ht : op? t.kind = some op)
    (herr : operand ts = .error err) : chain operand op? left (t :: ts) = .error err := by
  rw [chain, ht]
  simp only [herr]

/-- Operands joined by operators fail with their first operand. -/
theorem joined_of_error {operand : Rule} {op? : Kind → Option Op} {ts : List Token}
    {err : GrammarError} (herr : operand ts = .error err) :
    joined op? operand ts = .error err := by
  rw [joined, herr]

/-- Operands joined by operators begin with one operand, and go on as a chain. -/
theorem joined_of_operand {operand : Rule} {op? : Kind → Option Op} {left : Expr}
    {ts rest : List Token} (hleft : operand ts = .ok (left, rest)) :
    joined op? operand ts = chain operand op? left rest := by
  rw [joined, hleft]

/-- An expression fails with its first factor. -/
theorem expression_of_error {factor : Rule} {ts : List Token} {err : GrammarError}
    (herr : factor ts = .error err) : expression factor ts = .error err :=
  joined_of_error (joined_of_error herr)

/-- An expression fails with its second factor, whichever operator stands before it. -/
theorem expression_of_second_error {factor : Rule} {left : Expr} {op : Op} {pos : Nat}
    {ts us : List Token} {err : GrammarError}
    (hleft : factor ts = .ok (left, ⟨.operator op, pos⟩ :: us))
    (herr : factor us = .error err) : expression factor ts = .error err := by
  have hterm : joined factorOp? factor ts
      = chain factor factorOp? left (⟨.operator op, pos⟩ :: us) := joined_of_operand hleft
  have hadditive : op = .add ∨ op = .sub → expression factor ts = .error err := by
    intro hop
    have hstops : Stops factorOp? (⟨.operator op, pos⟩ :: us) := by
      rcases hop with rfl | rfl <;> simp [Stops, factorOp?]
    rw [chain_of_stops hstops] at hterm
    exact (joined_of_operand hterm).trans
      (chain_of_error (termOp?_eq_some_iff.mpr ⟨rfl, hop⟩) (joined_of_error herr))
  have hmultiplicative : op = .mul ∨ op = .div → expression factor ts = .error err := by
    intro hop
    exact joined_of_error
      (hterm.trans (chain_of_error (factorOp?_eq_some_iff.mpr ⟨rfl, hop⟩) herr))
  cases op with
  | add => exact hadditive (.inl rfl)
  | sub => exact hadditive (.inr rfl)
  | mul => exact hmultiplicative (.inl rfl)
  | div => exact hmultiplicative (.inr rfl)

/-! ### One factor

What `factor` does at each token that may open one, and all the ways in which it can
return a tree. -/

@[simp] theorem factor_number (limit finish room : Nat) (v : Rat) (pos : Nat)
    (ts : List Token) :
    factor limit finish room (⟨.number v, pos⟩ :: ts) = .ok (.literal v, ts) := by
  rw [factor.eq_def]

@[simp] theorem factor_zero_sub (limit finish pos : Nat) (ts : List Token) :
    factor limit finish 0 (⟨.operator .sub, pos⟩ :: ts) = .error (.tooDeep limit pos) := by
  rw [factor.eq_def]

@[simp] theorem factor_zero_opening (limit finish pos : Nat) (ts : List Token) :
    factor limit finish 0 (⟨.opening, pos⟩ :: ts) = .error (.tooDeep limit pos) := by
  rw [factor.eq_def]

@[simp] theorem factor_succ_sub (limit finish room pos : Nat) (ts : List Token) :
    factor limit finish (room + 1) (⟨.operator .sub, pos⟩ :: ts) =
      match factor limit finish room ts with
      | .error e => .error e
      | .ok (e, rest) => ofHeight (.negate e) pos rest :=
  factor.eq_def limit finish (room + 1) _

@[simp] theorem factor_succ_opening (limit finish room pos : Nat) (ts : List Token) :
    factor limit finish (room + 1) (⟨.opening, pos⟩ :: ts) =
      match expression (factor limit finish room) ts with
      | .error e => .error e
      | .ok (e, ⟨.closing, _⟩ :: rest) => .ok (e, rest)
      | .ok (_, rest) => .error (unexpectedAt finish .closing rest) :=
  factor.eq_def limit finish (room + 1) _

/-- A factor is read in three ways: as a number, behind a minus sign, or between
parentheses. The latter two have used a level. -/
theorem factor_eq_ok_iff {limit finish room : Nat} {ts rest : List Token} {e : Expr} :
    factor limit finish room ts = .ok (e, rest) ↔
      (∃ v pos, ts = ⟨.number v, pos⟩ :: rest ∧ e = .literal v) ∨
      (∃ room' pos ts' x, room = room' + 1 ∧ ts = ⟨.operator .sub, pos⟩ :: ts' ∧
        factor limit finish room' ts' = .ok (x, rest) ∧
        e = .negate x ∧ e.height ≤ maxHeight) ∨
      (∃ room' pos pos' ts', room = room' + 1 ∧ ts = ⟨.opening, pos⟩ :: ts' ∧
        expression (factor limit finish room') ts' = .ok (e, ⟨.closing, pos'⟩ :: rest)) := by
  constructor
  · intro h
    rw [factor.eq_def] at h
    split at h
    · rename_i v pos ts'
      cases h
      exact .inl ⟨v, pos, rfl, rfl⟩
    · rename_i pos ts'
      cases room with
      | zero => cases h
      | succ room =>
          simp only at h
          split at h
          · cases h
          · rename_i x rest' hx
            unfold ofHeight at h
            split at h
            · rename_i hheight
              cases h
              exact .inr (.inl ⟨room, pos, ts', x, rfl, rfl, hx, rfl, hheight⟩)
            · cases h
    · rename_i pos ts'
      cases room with
      | zero => cases h
      | succ room =>
          simp only at h
          split at h
          · cases h
          · rename_i x pos' rest' hx
            cases h
            exact .inr (.inr ⟨room, pos, pos', ts', rfl, rfl, hx⟩)
          · cases h
    · cases h
  · rintro (⟨v, pos, rfl, rfl⟩ | ⟨room', pos, ts', x, rfl, rfl, hx, rfl, hheight⟩ |
      ⟨room', pos, pos', ts', rfl, rfl, hx⟩)
    · simp
    · simp [hx, ofHeight, hheight]
    · simp [hx]

/-! ### Soundness -/

/-- What the reader takes from the front of the tokens is a phrase of this rule of the
grammar, within the limits, and it returns the tokens behind that phrase. -/
def Sound (room : Nat) (n : Nonterminal) (rule : Rule) : Prop :=
  ∀ ts e rest, rule ts = .ok (e, rest) →
    ∃ us, ts = us ++ rest ∧ DerivesWithin room n (us.map (·.kind)) e

/-- A chain whose operands are phrases of `m` extends a phrase of `n`, when the grammar
joins the two by the operators of the chain. -/
theorem sound_chain {room : Nat} {n m : Nonterminal} {operand : Rule} {op? : Kind → Option Op}
    (hjoin : ∀ {k : Kind} {op : Op} {ks ls : List Kind} {a b : Expr} {c d : Nat},
      op? k = some op → Derives n ks a c → Derives m ls b d →
        Derives n (ks ++ k :: ls) (.binary op a b) (max c d))
    (hoperand : Sound room m operand) (left : Expr) (ts : List Token) :
    ∀ (ks : List Kind) (e : Expr) (rest : List Token),
      DerivesWithin room n ks left → chain operand op? left ts = .ok (e, rest) →
        ∃ us, ts = us ++ rest ∧ DerivesWithin room n (ks ++ us.map (·.kind)) e := by
  -- The loop ends since the tree on the left grows, so the induction is on the loop.
  fun_induction chain operand op? left ts with
  | case1 left =>
      intro ks e rest hleft h
      cases h
      exact ⟨[], rfl, by simpa using hleft⟩
  | case2 left t ts hnone =>
      intro ks e rest hleft h
      cases h
      exact ⟨[], rfl, by simpa using hleft⟩
  | case3 left t ts op hsome err herr =>
      intro ks e rest hleft h
      cases h
  | case4 left t ts op hsome right ts' hright hheight ih =>
      intro ks e rest hleft h
      -- Both phrases have their own levels within `room`, and so does the larger number.
      obtain ⟨c, ha, hc, _⟩ := hleft
      obtain ⟨vs, rfl, d, hb, hd, _⟩ := hoperand _ _ _ hright
      have hboth : DerivesWithin room n (ks ++ t.kind :: vs.map (·.kind)) (.binary op left right) :=
        ⟨max c d, hjoin hsome ha hb, by omega, hheight⟩
      obtain ⟨us, rfl, hus⟩ := ih _ e rest hboth h
      exact ⟨t :: (vs ++ us), by simp, by simpa using hus⟩
  | case5 left t ts op hsome right ts' hright hheight =>
      intro ks e rest hleft h
      cases h

/-- Operands joined by a chain, when one operand is a phrase of the rule by itself. -/
theorem sound_joined {room : Nat} {n m : Nonterminal} {operand : Rule} {op? : Kind → Option Op}
    (hsingle : ∀ {ks : List Kind} {e : Expr} {levels : Nat},
      Derives m ks e levels → Derives n ks e levels)
    (hjoin : ∀ {k : Kind} {op : Op} {ks ls : List Kind} {a b : Expr} {c d : Nat},
      op? k = some op → Derives n ks a c → Derives m ls b d →
        Derives n (ks ++ k :: ls) (.binary op a b) (max c d))
    (hoperand : Sound room m operand) : Sound room n (joined op? operand) := by
  intro ts e rest h
  unfold joined at h
  split at h
  · cases h
  · rename_i left ts' hleft
    obtain ⟨us, rfl, c, ha, hc, hheight⟩ := hoperand _ _ _ hleft
    obtain ⟨vs, rfl, hvs⟩ :=
      sound_chain hjoin hoperand left ts' _ e rest ⟨c, hsingle ha, hc, hheight⟩ h
    exact ⟨us ++ vs, by simp, by simpa using hvs⟩

/-- A term is sound if its factors are. -/
theorem sound_term {room : Nat} {factor : Rule} (h : Sound room .factor factor) :
    Sound room .term (joined factorOp? factor) := by
  refine sound_joined .factor ?_ h
  intro k op ks ls a b c d hk ha hb
  obtain ⟨rfl, hop⟩ := factorOp?_eq_some_iff.mp hk
  exact .product hop ha hb

/-- An expression is sound if its factors are. -/
theorem sound_expression {room : Nat} {factor : Rule} (h : Sound room .factor factor) :
    Sound room .expression (expression factor) := by
  refine sound_joined .term ?_ (sound_term h)
  intro k op ks ls a b c d hk ha hb
  obtain ⟨rfl, hop⟩ := termOp?_eq_some_iff.mp hk
  exact .sum hop ha hb

/-- A factor is sound. The induction is on the number of levels that may still be opened,
as is the recursion. -/
theorem sound_factor (limit finish room : Nat) :
    Sound room .factor (factor limit finish room) := by
  induction room with
  | zero =>
      -- Without a level left only a number can be read.
      intro ts e rest h
      obtain ⟨v, pos, rfl, rfl⟩ | ⟨_, _, _, _, h0, _⟩ | ⟨_, _, _, _, h0, _⟩ :=
        factor_eq_ok_iff.mp h
      · exact ⟨[_], rfl, 0, .number v, Nat.le_refl 0, Nat.zero_le _⟩
      · cases h0
      · cases h0
  | succ room ih =>
      intro ts e rest h
      obtain ⟨v, pos, rfl, rfl⟩ | ⟨room', pos, ts', x, hroom, rfl, hx, rfl, hheight⟩ |
        ⟨room', pos, pos', ts', hroom, rfl, hx⟩ := factor_eq_ok_iff.mp h
      · exact ⟨[_], rfl, 0, .number v, Nat.zero_le _, Nat.zero_le _⟩
      · cases hroom
        obtain ⟨us, rfl, levels, hus, hlevels, _⟩ := ih _ _ _ hx
        exact ⟨_ :: us, rfl, levels + 1, .negation hus, by omega, hheight⟩
      · cases hroom
        obtain ⟨us, rfl, levels, hus, hlevels, hheight⟩ := sound_expression ih _ _ _ hx
        refine ⟨⟨.opening, pos⟩ :: (us ++ [⟨.closing, pos'⟩]), by simp, levels + 1, ?_,
          by omega, hheight⟩
        simpa using Derives.parentheses hus

/-! ### Completeness -/

/-- The reader of a rule of the grammar, given how factors are read. -/
def ruleOf (n : Nonterminal) (factor : Rule) : Rule :=
  match n with
  | .expression => expression factor
  | .term => joined factorOp? factor
  | .factor => factor

/-- How reading goes on behind a phrase of the rule: a factor is returned, and the other
rules look for further operators. -/
def resume (n : Nonterminal) (factor : Rule) (e : Expr) (rest : List Token) :
    Except GrammarError (Expr × List Token) :=
  match n with
  | .expression => chain (joined factorOp? factor) termOp? e rest
  | .term => chain factor factorOp? e rest
  | .factor => .ok (e, rest)

/-- A term is read to its end, and returned, before a token that does not continue it. -/
theorem joined_of_resume {factor : Rule} {ts rest : List Token} {e : Expr}
    (h : ruleOf .term factor ts = resume .term factor e rest) (hrest : Stops factorOp? rest) :
    joined factorOp? factor ts = .ok (e, rest) :=
  h.trans (chain_of_stops hrest)

/-- **The reader follows every derivation within its limits**, whatever tokens stand
behind the phrase. Only behind an expression no `*` or `/` may stand, since its last term
would take it. -/
theorem read_of_derives {n : Nonterminal} {ks : List Kind} {e : Expr} {levels : Nat}
    (h : Derives n ks e levels) :
    ∀ (limit finish room : Nat) (us rest : List Token), us.map (·.kind) = ks →
      levels ≤ room → e.height ≤ maxHeight → (n = .expression → Stops factorOp? rest) →
        ruleOf n (factor limit finish room) (us ++ rest)
          = resume n (factor limit finish room) e rest := by
  induction h with
  | number v =>
      intro limit finish room us rest hus _ _ _
      obtain ⟨⟨k, pos⟩, rfl, rfl⟩ := List.map_eq_singleton_iff.mp hus
      exact factor_number limit finish room v pos rest
  | @negation ks e levels _ ih =>
      intro limit finish room us rest hus hlevels hheight _
      obtain ⟨⟨k, pos⟩, vs, rfl, rfl, hvs⟩ := List.map_eq_cons_iff.mp hus
      obtain ⟨room, rfl⟩ : ∃ r, room = r + 1 := ⟨room - 1, by omega⟩
      have hlow : e.height ≤ maxHeight := by simp only [height] at hheight; omega
      have hx : factor limit finish room (vs ++ rest) = .ok (e, rest) :=
        ih limit finish room vs rest hvs (by omega) hlow nofun
      show factor limit finish (room + 1) (⟨.operator .sub, pos⟩ :: (vs ++ rest)) = .ok _
      simp [hx, ofHeight, hheight]
  | @parentheses ks e levels _ ih =>
      intro limit finish room us rest hus hlevels hheight _
      obtain ⟨⟨k, pos⟩, vs, rfl, rfl, hvs⟩ := List.map_eq_cons_iff.mp hus
      obtain ⟨ws, cs, rfl, hws, hcs⟩ := List.map_eq_append_iff.mp hvs
      obtain ⟨⟨k', pos'⟩, rfl, rfl⟩ := List.map_eq_singleton_iff.mp hcs
      obtain ⟨room, rfl⟩ : ∃ r, room = r + 1 := ⟨room - 1, by omega⟩
      -- No operator stands behind the expression, so its loop ends at the parenthesis.
      have hx : expression (factor limit finish room) (ws ++ ⟨.closing, pos'⟩ :: rest)
          = .ok (e, ⟨.closing, pos'⟩ :: rest) :=
        (ih limit finish room ws (⟨.closing, pos'⟩ :: rest) hws (by omega) hheight
          (by simp [Stops, factorOp?])).trans (chain_of_stops (by simp [Stops, termOp?]))
      show factor limit finish (room + 1)
        (⟨.opening, pos⟩ :: (ws ++ [⟨.closing, pos'⟩] ++ rest)) = .ok _
      simp [hx]
  | @factor ks e levels _ ih =>
      intro limit finish room us rest hus hlevels hheight _
      have hx := ih limit finish room us rest hus hlevels hheight nofun
      exact joined_of_operand hx
  | @product ks ls a b op c d hop _ _ iha ihb =>
      intro limit finish room us rest hus hlevels hheight _
      obtain ⟨vs, ws, rfl, hvs, hws⟩ := List.map_eq_append_iff.mp hus
      obtain ⟨⟨k, pos⟩, xs, rfl, rfl, hxs⟩ := List.map_eq_cons_iff.mp hws
      have hlow := hheight
      simp only [height] at hlow
      -- Reading goes on behind the term on the left, where its loop takes the operator.
      have ha := iha limit finish room vs (⟨.operator op, pos⟩ :: (xs ++ rest)) hvs (by omega)
        (by omega) nofun
      have hb := ihb limit finish room xs rest hxs (by omega) (by omega) nofun
      simp only [List.append_assoc, List.cons_append]
      exact ha.trans (chain_of_operand (factorOp?_eq_some_iff.mpr ⟨rfl, hop⟩) hb hheight)
  | @term ks e levels _ ih =>
      intro limit finish room us rest hus hlevels hheight hrest
      have hx := joined_of_resume (ih limit finish room us rest hus hlevels hheight nofun)
        (hrest rfl)
      exact joined_of_operand hx
  | @sum ks ls a b op c d hop _ _ iha ihb =>
      intro limit finish room us rest hus hlevels hheight hrest
      obtain ⟨vs, ws, rfl, hvs, hws⟩ := List.map_eq_append_iff.mp hus
      obtain ⟨⟨k, pos⟩, xs, rfl, rfl, hxs⟩ := List.map_eq_cons_iff.mp hws
      have hlow := hheight
      simp only [height] at hlow
      -- The last term on the left leaves the operator to the loop of the expression.
      have hstops : Stops factorOp? (⟨.operator op, pos⟩ :: (xs ++ rest)) := by
        rcases hop with rfl | rfl <;> simp [Stops, factorOp?]
      have ha := iha limit finish room vs (⟨.operator op, pos⟩ :: (xs ++ rest)) hvs (by omega)
        (by omega) fun _ => hstops
      have hb := joined_of_resume (ihb limit finish room xs rest hxs (by omega) (by omega) nofun)
        (hrest rfl)
      simp only [List.append_assoc, List.cons_append]
      exact ha.trans (chain_of_operand (termOp?_eq_some_iff.mpr ⟨rfl, hop⟩) hb hheight)

/-! ### The whole sequence -/

/-- A tree is returned when an expression ends with the last token before the end mark. -/
theorem ofTokens_eq_ok_iff_expression {depth : Nat} {tokens : List Token} {e : Expr} :
    ofTokens depth tokens = .ok e ↔
      expression (factor (min depth maxHeight) (finishPos tokens) (min depth maxHeight))
        (body tokens) = .ok (e, []) := by
  unfold ofTokens
  cases hbody : body tokens with
  | nil => simp [expression, joined, factor]
  | cons t ts =>
      simp only
      split
      · simp_all
      · simp_all
      · simp_all

/-- The error at the first place where an expression cannot go on is the error of the
sequence, unless the sequence is empty. -/
theorem ofTokens_of_error {depth : Nat} {tokens : List Token} {err : GrammarError}
    (hbody : body tokens ≠ [])
    (herr : expression (factor (min depth maxHeight) (finishPos tokens) (min depth maxHeight))
      (body tokens) = .error err) : ofTokens depth tokens = .error err := by
  unfold ofTokens
  cases hcons : body tokens with
  | nil => exact absurd hcons hbody
  | cons t ts =>
      rw [hcons] at herr
      simp only [herr]

/-- Reading accepts what the grammar derives within the limits, with the tree of the
derivation. This holds of any tokens: those before the first end mark count. -/
theorem ofTokens_eq_ok_iff {depth : Nat} {tokens : List Token} {e : Expr} :
    ofTokens depth tokens = .ok e ↔
      DerivesWithin (min depth maxHeight) .expression ((body tokens).map (·.kind)) e := by
  rw [ofTokens_eq_ok_iff_expression]
  constructor
  · intro h
    obtain ⟨us, hus, hder⟩ := sound_expression (sound_factor _ _ _) _ _ _ h
    rw [List.append_nil] at hus
    rwa [hus]
  · rintro ⟨levels, h, hlevels, hheight⟩
    have hread := read_of_derives h (min depth maxHeight) (finishPos tokens) _ (body tokens) []
      rfl hlevels hheight (by simp [Stops])
    rw [List.append_nil] at hread
    exact hread.trans (chain_of_stops (by simp [Stops]))

/-- The tokens before an end mark are the body of the sequence, whatever comes behind. -/
theorem body_append_finish {ts : List Token} (hts : ∀ t ∈ ts, t.kind ≠ .finish) (pos : Nat)
    (more : List Token) : body (ts ++ ⟨.finish, pos⟩ :: more) = ts := by
  unfold body
  rw [List.takeWhile_append_of_pos (by simpa using hts)]
  simp

/-- The position of the end mark behind tokens without one. -/
theorem finishPos_append_finish {ts : List Token} (hts : ∀ t ∈ ts, t.kind ≠ .finish)
    (finish : Nat) : finishPos (ts ++ [⟨.finish, finish⟩]) = finish := by
  have hnone : ts.find? (·.kind = .finish) = none := by simpa using hts
  simp [finishPos, hnone]

/-- No tokens at all give a tree that is too high. -/
theorem height_le_of_ofTokens {depth : Nat} {tokens : List Token} {e : Expr}
    (h : ofTokens depth tokens = .ok e) : e.height ≤ maxHeight := by
  obtain ⟨_, _, _, hheight⟩ := ofTokens_eq_ok_iff.mp h
  exact hheight

/-- **The reader accepts the grammar, within its two limits, with the tree of the
derivation.** The tokens `ts` and an end mark behind them have a tree exactly when `ts`
derives an expression with that tree, no more levels are open at once than asked for, or
than 512, and the tree is no higher than 512. The height holds of every tree that is ever
returned. -/
theorem ofTokens_eq_ok_iff_derives (ts : List Token) (hts : ∀ t ∈ ts, t.kind ≠ .finish)
    (finish depth : Nat) (e : Expr) :
    (ofTokens depth (ts ++ [⟨.finish, finish⟩]) = .ok e ↔
      ∃ levels, Derives .expression (ts.map (·.kind)) e levels ∧ levels ≤ min depth 512 ∧
        e.height ≤ 512) ∧
    ∀ (depth' : Nat) (tokens : List Token) (e' : Expr),
      ofTokens depth' tokens = .ok e' → e'.height ≤ 512 := by
  refine ⟨?_, fun depth' tokens e' h => height_le_of_ofTokens h⟩
  rw [ofTokens_eq_ok_iff, body_append_finish hts]
  rfl

/-- `1 - -(2)` opens two levels: that of the second minus, and that of the parenthesis. -/
theorem ofTokens_two_levels :
    let ts : List Token := [⟨.number 1, 0⟩, ⟨.operator .sub, 7⟩, ⟨.operator .sub, 3⟩,
      ⟨.opening, 3⟩, ⟨.number 2, 9⟩, ⟨.closing, 0⟩]
    (∀ t ∈ ts, t.kind ≠ .finish) ∧
      ofTokens 2 (ts ++ [⟨.finish, 5⟩])
        = .ok (.binary .sub (.literal 1) (.negate (.literal 2))) := by
  intro ts
  have hts : ∀ t ∈ ts, t.kind ≠ .finish := by decide
  have hright : Derives .factor [.operator .sub, .opening, .number 2, .closing]
      (.negate (.literal 2)) 2 :=
    .negation (.parentheses (.expression_of_factor (.number 2)))
  have hder : Derives .expression (ts.map (·.kind))
      (.binary .sub (.literal 1) (.negate (.literal 2))) (max 0 2) :=
    .expression_of_factors .sub (.number 1) hright
  exact ⟨hts, (ofTokens_eq_ok_iff_derives ts hts 5 2 _).1.mpr
    ⟨_, hder, by decide, by decide⟩⟩

end AnswerDesk.Expr
