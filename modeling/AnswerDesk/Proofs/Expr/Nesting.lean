import AnswerDesk.Proofs.Expr.Parallel
import AnswerDesk.Proofs.Expr.Unexpected

/-!
# `AnswerDesk.Proofs.Expr.Nesting`: what a higher limit on levels changes

A calculation may be refused for its shape in two ways, and both look the same: too many levels
are open at once, or a tree is too high. This file says what raising the limit on levels does,
and what each of the two errors points at.

* Raising the limit only helps calculations that were refused for their levels. Two readings
  with different limits run side by side (`Proofs.Expr.Parallel`), and the one with less room
  gives up or ends as the other.
* `Exceeds` says what is at the position of such an error: a token that would open one level
  too many, or an operator whose tree is one too high.

How many levels are open at a token depends on what has been begun and not ended before it.
`Leads` says so along the grammar, without reading anything. The tokens before lead to where a
factor is to stand, and the minus signs and parentheses on the way are counted.
`exceeds_factor` and the lemmas before it follow the reader, as its soundness does. They carry
along all that stands before the tokens that a rule is given, since the levels opened there
count as well.
-/

set_option autoImplicit false

namespace AnswerDesk.Expr

open Token (Kind)

/-- The kinds begin an expression and lead to where a phrase of the rule is to stand. That many
levels are opened on the way and still open. -/
inductive Leads : Nonterminal → List Kind → Nat → Prop
  /-- An expression is to stand at the start. -/
  | start : Leads .expression [] 0
  /-- A factor is to stand behind a minus sign that stands for one. -/
  | negation {ks : List Kind} {levels : Nat} (h : Leads .factor ks levels) :
      Leads .factor (ks ++ [.operator .sub]) (levels + 1)
  /-- An expression is to stand behind a parenthesis that stands for a factor. -/
  | parentheses {ks : List Kind} {levels : Nat} (h : Leads .factor ks levels) :
      Leads .expression (ks ++ [.opening]) (levels + 1)
  /-- An expression begins with a term. -/
  | term {ks : List Kind} {levels : Nat} (h : Leads .expression ks levels) :
      Leads .term ks levels
  /-- An expression goes on with a term behind `+` or `-`. -/
  | sum {ks ls : List Kind} {levels d : Nat} {a : Expr} {op : Op} (hop : op = .add ∨ op = .sub)
      (h : Leads .expression ks levels) (ha : Derives .expression ls a d) :
      Leads .term (ks ++ (ls ++ [.operator op])) levels
  /-- A term begins with a factor. -/
  | factor {ks : List Kind} {levels : Nat} (h : Leads .term ks levels) :
      Leads .factor ks levels
  /-- A term goes on with a factor behind `*` or `/`. -/
  | product {ks ls : List Kind} {levels d : Nat} {a : Expr} {op : Op}
      (hop : op = .mul ∨ op = .div) (h : Leads .term ks levels) (ha : Derives .term ls a d) :
      Leads .factor (ks ++ (ls ++ [.operator op])) levels

/-- The tokens are a phrase of the rule, `e` is its tree, and the operator at the root of the tree
stands at `pos`. -/
inductive HasRoot : Nonterminal → List Token → Expr → Nat → Prop
  /-- The sign of a negation. -/
  | negation {ts : List Token} {e : Expr} {levels pos : Nat}
      (he : Derives .factor (ts.map (·.kind)) e levels) :
      HasRoot .factor (⟨.operator .sub, pos⟩ :: ts) (.negate e) pos
  /-- The last `*` or `/` of a term. -/
  | product {ts us : List Token} {a b : Expr} {c d pos : Nat} {op : Op}
      (hop : op = .mul ∨ op = .div) (ha : Derives .term (ts.map (·.kind)) a c)
      (hb : Derives .factor (us.map (·.kind)) b d) :
      HasRoot .term (ts ++ ⟨.operator op, pos⟩ :: us) (.binary op a b) pos
  /-- The last `+` or `-` of an expression. -/
  | sum {ts us : List Token} {a b : Expr} {c d pos : Nat} {op : Op}
      (hop : op = .add ∨ op = .sub) (ha : Derives .expression (ts.map (·.kind)) a c)
      (hb : Derives .term (us.map (·.kind)) b d) :
      HasRoot .expression (ts ++ ⟨.operator op, pos⟩ :: us) (.binary op a b) pos

/-- What is wrong at the position `pos` of these tokens when `depth` levels may be open, and the
limit that is named for it. -/
inductive Exceeds (depth : Nat) (ts : List Token) : Nat → Nat → Prop
  /-- A parenthesis or a minus sign stands for a factor where all levels are open already. -/
  | level {us rest : List Token} {t : Token} (hts : ts = us ++ t :: rest)
      (hplace : Leads .factor (us.map (·.kind)) depth)
      (hopens : t.kind = .opening ∨ t.kind = .operator .sub) : Exceeds depth ts depth t.pos
  /-- An operator is the root of a tree that is one too high. Its phrase has been read to the
  end: behind the last term of a sum no `*` or `/` comes. -/
  | height {us vs rest : List Token} {n : Nonterminal} {e : Expr} {levels pos : Nat}
      (hts : ts = us ++ (vs ++ rest)) (hplace : Leads n (us.map (·.kind)) levels)
      (hroot : HasRoot n vs e pos) (hrest : n = .expression → Stops factorOp? rest)
      (hheight : e.height = 513) : Exceeds depth ts 512 pos

/-! ### Where the error of a rule points -/

/-- When the rule is given tokens that begin where its phrase is to stand, with `room` of
`depth` levels left, and finds them nested too deeply, it points at what is wrong. -/
def PointsAtExcess (depth room : Nat) (n : Nonterminal) (rule : Rule) : Prop :=
  ∀ (us ts : List Token) (opened limit pos : Nat), Leads n (us.map (·.kind)) opened →
    opened + room = depth → rule ts = .error (.tooDeep limit pos) →
      Exceeds depth (us ++ ts) limit pos

/-- The grammar joins phrases of the rule `m` to one of the rule `n` by these operators. -/
structure Joins (op? : Kind → Option Op) (n m : Nonterminal) : Prop where
  /-- A phrase of `n` may be one of `m`. -/
  single : ∀ {ks : List Kind} {e : Expr} {levels : Nat}, Derives m ks e levels → Derives n ks e levels
  /-- It begins with one of `m`. -/
  first : ∀ {ks : List Kind} {levels : Nat}, Leads n ks levels → Leads m ks levels
  /-- It goes on with one of `m` behind an operator. -/
  further : ∀ {ks ls : List Kind} {k : Kind} {op : Op} {levels d : Nat} {a : Expr},
    op? k = some op → Leads n ks levels → Derives n ls a d → Leads m (ks ++ (ls ++ [k])) levels
  /-- The two make a phrase of `n`. -/
  join : ∀ {ks ls : List Kind} {k : Kind} {op : Op} {a b : Expr} {c d : Nat}, op? k = some op →
    Derives n ks a c → Derives m ls b d → Derives n (ks ++ k :: ls) (.binary op a b) (max c d)
  /-- The operator between them is the root of its tree. -/
  root : ∀ {ts us : List Token} {t : Token} {op : Op} {a b : Expr} {c d : Nat},
    op? t.kind = some op → Derives n (ts.map (·.kind)) a c → Derives m (us.map (·.kind)) b d →
      HasRoot n (ts ++ t :: us) (.binary op a b) t.pos

/-- Factors are joined to terms. -/
theorem joins_factorOp : Joins factorOp? .term .factor where
  single := .factor
  first := .factor
  further hk h ha := by
    obtain ⟨rfl, hop⟩ := factorOp?_eq_some_iff.mp hk
    exact .product hop h ha
  join hk ha hb := by
    obtain ⟨rfl, hop⟩ := factorOp?_eq_some_iff.mp hk
    exact .product hop ha hb
  root {ts us t op a b c d} hk ha hb := by
    obtain ⟨kind, pos⟩ := t
    obtain ⟨rfl, hop⟩ := factorOp?_eq_some_iff.mp hk
    exact .product hop ha hb

/-- Terms are joined to expressions. -/
theorem joins_termOp : Joins termOp? .expression .term where
  single := .term
  first := .term
  further hk h ha := by
    obtain ⟨rfl, hop⟩ := termOp?_eq_some_iff.mp hk
    exact .sum hop h ha
  join hk ha hb := by
    obtain ⟨rfl, hop⟩ := termOp?_eq_some_iff.mp hk
    exact .sum hop ha hb
  root {ts us t op a b c d} hk ha hb := by
    obtain ⟨kind, pos⟩ := t
    obtain ⟨rfl, hop⟩ := termOp?_eq_some_iff.mp hk
    exact .sum hop ha hb

section
variable {depth room : Nat} {n m : Nonterminal} {op? : Kind → Option Op} {operand : Rule}

/-- A chain points at what its operands point at, or at an operator that makes the tree too high.
`ws` is the phrase on its left. -/
theorem exceeds_chain (hjoins : Joins op? n m) (hsound : Sound room m operand)
    (hstops : ∀ ts e rest, operand ts = .ok (e, rest) → n = .expression → Stops factorOp? rest)
    (hoperand : PointsAtExcess depth room m operand) {us ts : List Token} {left : Expr}
    {opened limit pos : Nat} (hplace : Leads n (us.map (·.kind)) opened)
    (hroom : opened + room = depth) (h : chain operand op? left ts = .error (.tooDeep limit pos)) :
    ∀ ws : List Token, DerivesWithin room n (ws.map (·.kind)) left →
      Exceeds depth (us ++ (ws ++ ts)) limit pos := by
  fun_induction chain operand op? left ts with
  | case1 left => cases h
  | case2 left t ts hnone => cases h
  | case3 left t ts op hsome err herr =>
      rintro ws ⟨c, ha, -, -⟩
      cases h
      -- The operand stands behind the phrase and the operator.
      have hfurther : Leads m ((us ++ (ws ++ [t])).map (·.kind)) opened := by
        simpa using hjoins.further hsome hplace ha
      have hexceeds := hoperand (us ++ (ws ++ [t])) ts opened limit pos hfurther hroom herr
      simpa using hexceeds
  | case4 left t ts op hsome right ts' hright hheight ih =>
      rintro ws ⟨c, ha, hc, -⟩
      obtain ⟨vs, rfl, d, hb, hd, -⟩ := hsound _ _ _ hright
      have hboth : DerivesWithin room n ((ws ++ t :: vs).map (·.kind)) (.binary op left right) := by
        refine ⟨max c d, ?_, by omega, hheight⟩
        simpa using hjoins.join hsome ha hb
      simpa using ih h (ws ++ t :: vs) hboth
  | case5 left t ts op hsome right ts' hright hheight =>
      rintro ws ⟨c, ha, hc, hleft⟩
      cases h
      obtain ⟨vs, rfl, d, hb, -, hlow⟩ := hsound _ _ _ hright
      -- Both operands are low enough, so their tree is too high by one.
      have hexact : (Expr.binary op left right).height = 513 := by
        simp only [height, maxHeight] at *
        omega
      have hts : us ++ (ws ++ t :: (vs ++ ts')) = us ++ ((ws ++ t :: vs) ++ ts') := by simp
      exact .height hts hplace (hjoins.root hsome ha hb) (hstops _ _ _ hright) hexact

/-- Operands joined by operators point at what a chain points at. -/
theorem exceeds_joined (hjoins : Joins op? n m) (hsound : Sound room m operand)
    (hstops : ∀ ts e rest, operand ts = .ok (e, rest) → n = .expression → Stops factorOp? rest)
    (hoperand : PointsAtExcess depth room m operand) :
    PointsAtExcess depth room n (joined op? operand) := by
  intro us ts opened limit pos hplace hroom h
  unfold joined at h
  split at h
  · rename_i err herr
    cases h
    exact hoperand us ts opened limit pos (hjoins.first hplace) hroom herr
  · rename_i left ts' hleft
    obtain ⟨ws, rfl, c, ha, hc, hlow⟩ := hsound _ _ _ hleft
    exact exceeds_chain hjoins hsound hstops hoperand hplace hroom h ws
      ⟨c, hjoins.single ha, hc, hlow⟩

/-- An expression points at what its factors point at, or at one of its operators. -/
theorem exceeds_expression {factor : Rule} (hsound : Sound room .factor factor)
    (hfactor : PointsAtExcess depth room .factor factor) :
    PointsAtExcess depth room .expression (expression factor) := by
  refine exceeds_joined joins_termOp (sound_term hsound) ?_ ?_
  · exact fun ts e rest hread _ => (stops_of_joined hread).1
  · exact exceeds_joined joins_factorOp hsound nofun hfactor

end

/-! ### One factor -/

theorem unexpectedAt_ne_tooDeep (finish : Nat) (expected : Expected) (ts : List Token)
    (limit pos : Nat) : unexpectedAt finish expected ts ≠ .tooDeep limit pos := by
  cases ts <;> simp [unexpectedAt]

/-- A factor is nested too deeply in four ways: it opens a level and none is left, the factor
behind its minus sign is, the expression in its parentheses is, or its minus sign makes the tree
too high. -/
theorem factor_eq_tooDeep {depth finish room limit pos : Nat} {ts : List Token}
    (h : factor depth finish room ts = .error (.tooDeep limit pos)) :
    (room = 0 ∧ limit = depth ∧ ∃ t rest, ts = t :: rest ∧
      (t.kind = .opening ∨ t.kind = .operator .sub) ∧ t.pos = pos) ∨
    (∃ room' p rest, room = room' + 1 ∧ ts = ⟨.operator .sub, p⟩ :: rest ∧
      factor depth finish room' rest = .error (.tooDeep limit pos)) ∨
    (∃ room' p rest, room = room' + 1 ∧ ts = ⟨.opening, p⟩ :: rest ∧
      expression (factor depth finish room') rest = .error (.tooDeep limit pos)) ∨
    (∃ room' rest x rest', room = room' + 1 ∧ ts = ⟨.operator .sub, pos⟩ :: rest ∧
      factor depth finish room' rest = .ok (x, rest') ∧ maxHeight < (Expr.negate x).height ∧
      limit = maxHeight) := by
  obtain ⟨v, p, rest, rfl⟩ | ⟨p, rest, rfl⟩ | ⟨p, rest, rfl⟩ | hnone := begin_cases ts
  · simp at h
  · cases room with
    | zero =>
        cases h
        exact .inl ⟨rfl, rfl, _, rest, rfl, .inr rfl, rfl⟩
    | succ room =>
        rw [factor_succ_sub] at h
        split at h
        · rename_i err herr
          cases h
          exact .inr (.inl ⟨room, p, rest, rfl, rfl, herr⟩)
        · rename_i x rest' hread
          unfold ofHeight at h
          split at h
          · cases h
          · rename_i hheight
            cases h
            exact .inr (.inr (.inr ⟨room, rest, x, rest', rfl, rfl, hread,
              Nat.lt_of_not_le hheight, rfl⟩))
  · cases room with
    | zero =>
        cases h
        exact .inl ⟨rfl, rfl, _, rest, rfl, .inl rfl, rfl⟩
    | succ room =>
        rw [factor_succ_opening] at h
        split at h
        · rename_i err herr
          cases h
          exact .inr (.inr (.inl ⟨room, p, rest, rfl, rfl, herr⟩))
        · cases h
        · exact absurd (Except.error.inj h) (unexpectedAt_ne_tooDeep _ _ _ _ _)
  · rw [factor_refuses hnone] at h
    exact absurd (Except.error.inj h) (unexpectedAt_ne_tooDeep _ _ _ _ _)

/-- **A factor that is nested too deeply points at what is wrong.** The induction is on the number
of levels that may still be opened, as is the recursion. -/
theorem exceeds_factor (depth finish room : Nat) :
    PointsAtExcess depth room .factor (factor depth finish room) := by
  induction room with
  | zero =>
      intro us ts opened limit pos hplace hroom h
      obtain ⟨-, rfl, t, rest, rfl, hopens, rfl⟩ | ⟨_, _, _, h0, -⟩ | ⟨_, _, _, h0, -⟩ |
        ⟨_, _, _, _, h0, -⟩ := factor_eq_tooDeep h
      · -- All levels are open, so the ones before the token are as many as may be.
        obtain rfl : opened = limit := hroom
        exact .level rfl hplace hopens
      · cases h0
      · cases h0
      · cases h0
  | succ room ih =>
      intro us ts opened limit pos hplace hroom h
      have hsound := sound_factor depth finish room
      obtain ⟨h0, -⟩ | ⟨room', p, rest, hsucc, rfl, herr⟩ | ⟨room', p, rest, hsucc, rfl, herr⟩ |
        ⟨room', rest, x, rest', hsucc, rfl, hread, hheight, rfl⟩ := factor_eq_tooDeep h
      · cases h0
      · cases hsucc
        have hinside : Leads .factor ((us ++ [(⟨.operator .sub, p⟩ : Token)]).map (·.kind)) (opened + 1) := by
          simpa using hplace.negation
        have hexceeds := ih (us ++ [⟨.operator .sub, p⟩]) rest (opened + 1) limit pos hinside
          (by omega) herr
        simpa using hexceeds
      · cases hsucc
        have hinside : Leads .expression ((us ++ [(⟨.opening, p⟩ : Token)]).map (·.kind)) (opened + 1) := by
          simpa using hplace.parentheses
        have hexceeds := exceeds_expression hsound ih (us ++ [⟨.opening, p⟩]) rest (opened + 1)
          limit pos hinside (by omega) herr
        simpa using hexceeds
      · cases hsucc
        obtain ⟨vs, rfl, d, hx, -, hlow⟩ := hsound _ _ _ hread
        have hexact : (Expr.negate x).height = 513 := by
          simp only [height, maxHeight] at *
          omega
        have hts : us ++ ⟨.operator .sub, pos⟩ :: (vs ++ rest')
            = us ++ ((⟨.operator .sub, pos⟩ :: vs) ++ rest') := by simp
        exact .height hts hplace (.negation hx) (by simp) hexact

/-! ### The whole sequence -/

/-- A sequence that is nested too deeply points at what is wrong. -/
theorem exceeds_of_ofTokens {depth limit pos : Nat} {tokens : List Token}
    (h : ofTokens depth tokens = .error (.tooDeep limit pos)) :
    Exceeds (min depth maxHeight) (body tokens) limit pos := by
  have hpoints := exceeds_expression (sound_factor _ _ _)
    (exceeds_factor (min depth maxHeight) (finishPos tokens) (min depth maxHeight))
  unfold ofTokens at h
  split at h
  · cases h
  · rename_i t ts hbody
    simp only at h
    split at h
    · rename_i err herr
      cases h
      rw [hbody]
      exact hpoints [] (t :: ts) 0 limit pos .start (Nat.zero_add _) herr
    · cases h
    · exact absurd (Except.error.inj h) (unexpectedAt_ne_tooDeep _ _ _ _ _)

/-- With more levels, a sequence is read as before, unless it was refused for its levels. -/
theorem ofTokens_of_le {low high : Nat} (hle : low ≤ high) {tokens : List Token}
    (h : ∀ pos, ofTokens low tokens ≠ .error (.tooDeep (min low maxHeight) pos)) :
    ofTokens high tokens = ofTokens low tokens := by
  have hbody : body tokens = (body tokens).map (Token.moved id) := by simp
  obtain ⟨err, herr, pos, rfl⟩ | hsame := ofTokens_follows
    (fun err => ∃ pos, err = .tooDeep (min low maxHeight) pos) hbody (fun _ => rfl)
    (show min low maxHeight ≤ min high maxHeight by omega) (.inr fun pos => ⟨pos, rfl⟩)
  · exact absurd herr (h pos)
  · rw [hsame]
    cases ofTokens low tokens with
    | ok e => rfl
    | error err => exact congrArg _ err.moved_id

/-- Limits count up to `maxHeight`. -/
theorem ofTokens_of_maxHeight_le {depth : Nat} (hdepth : maxHeight ≤ depth) (tokens : List Token) :
    ofTokens depth tokens = ofTokens maxHeight tokens := by
  unfold ofTokens
  rw [Nat.min_eq_right hdepth, Nat.min_self]

/-- **A higher limit only lifts what was refused for its levels.** A calculation that was not
refused with the lower limit as the reason is read with the higher one as before: the tree, the
error and its position are the same, also if a tree was too high. Limits from 512 on are all the
same. And where something is nested too deeply, the position is that of a parenthesis or of a
minus sign where all levels are open already, or of an operator whose tree is one too high. -/
theorem raising_limit_lifts_levels_only (tokens : List Token) :
    (∀ low high, low ≤ high →
      (∀ pos, ofTokens low tokens ≠ .error (.tooDeep (min low 512) pos)) →
        ofTokens high tokens = ofTokens low tokens) ∧
    (∀ depth, 512 ≤ depth → ofTokens depth tokens = ofTokens 512 tokens) ∧
    ∀ depth limit pos, ofTokens depth tokens = .error (.tooDeep limit pos) →
      Exceeds (min depth 512) (body tokens) limit pos :=
  ⟨fun _ _ hle => ofTokens_of_le hle, fun _ hdepth => ofTokens_of_maxHeight_le hdepth tokens,
    fun _ _ _ => exceeds_of_ofTokens⟩

/-- With one level, `(1 + ` lacks an operand, and so it does with two. In `-(1)` the parenthesis
opens a second level. -/
theorem parenthesis_behind_sign_exceeds :
    ofTokens 2 [⟨.opening, 0⟩, ⟨.number 1, 1⟩, ⟨.operator .add, 3⟩]
      = .error (.unexpected .finish .operand 3) ∧
    ofTokens 1 [⟨.operator .sub, 0⟩, ⟨.opening, 1⟩, ⟨.number 1, 2⟩, ⟨.closing, 3⟩]
      = .error (.tooDeep 1 1) ∧
    Exceeds 1 [⟨.operator .sub, 0⟩, ⟨.opening, 1⟩, ⟨.number 1, 2⟩, ⟨.closing, 3⟩] 1 1 := by
  have hlow : ofTokens 1 [⟨.opening, 0⟩, ⟨.number 1, 1⟩, ⟨.operator .add, 3⟩]
      = .error (.unexpected .finish .operand 3) := by cbv
  have hdeep : ofTokens 1 [⟨.operator .sub, 0⟩, ⟨.opening, 1⟩, ⟨.number 1, 2⟩, ⟨.closing, 3⟩]
      = .error (.tooDeep 1 1) := by cbv
  refine ⟨?_, hdeep, (raising_limit_lifts_levels_only _).2.2 1 1 1 hdeep⟩
  rw [(raising_limit_lifts_levels_only _).1 1 2 (by decide) (by simp [hlow]), hlow]

end AnswerDesk.Expr
