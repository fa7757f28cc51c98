import AnswerDesk.Proofs.Expr.Reader
import AnswerDesk.Proofs.Expr.Viable

/-!
# `AnswerDesk.Proofs.Expr.Unexpected`: where a calculation stops making sense

The reader reports an unexpected token at the first place from which no expression goes on,
and what it says it expected would have gone on there. `ofTokens_error_at_first_hopeless` is
the main statement.

The reader has no notion of a place in the grammar; it is somewhere inside three functions
that call each other. So its errors are compared with the scan of `Proofs.Expr.Viable`, which
gets stuck at the first hopeless kind by definition. A rule `Blames` when its errors are
those of the scan (`BlamesFirst`), whatever parentheses are open around it. As soundness does,
this follows the reader: `blames_chain` for both loops, then `blames_factor` by induction on
the levels that may still be opened. Errors about levels and heights are apart: no grammar has
such limits.

What would have been read is a matter of the place alone (`Place.expected`): an operand before
an operand; behind one, the closing parenthesis if one is open, and an operator or the end
otherwise.
-/

set_option autoImplicit false

namespace AnswerDesk

open Token (Kind)

/-- The kinds that an error names as what would have been read. The words are those of
`Expected.message`, where an operator is any of the four. -/
def Expected.Names : Expected → Kind → Prop
  | .operand, k => (∃ v, k = .number v) ∨ k = .operator .sub ∨ k = .opening
  | .closing, k => k = .closing
  | .operatorOrEnd, k => (∃ op, k = .operator op) ∨ k = .finish

namespace Expr

/-- Some expression begins with the kinds `ks` and goes on with this one. The end mark goes on
from a whole expression. -/
def CanFollow (ks : List Kind) : Kind → Prop
  | .finish => IsPhrase .expression ks
  | k => Viable (ks ++ [k])

/-- What is named as expected at a place. -/
def Place.expected : Place → Expected
  | .before _ => .operand
  | .behind 0 => .operatorOrEnd
  | .behind (_ + 1) => .closing

/-- What is expected at a place can follow there. -/
theorem canFollow_of_names {ks : List Kind} {p : Place} {k : Kind}
    (hp : (Place.before 0).after? ks = some p) (hk : p.expected.Names k) : CanFollow ks k := by
  have hstep : ∀ {q : Place}, p.next? k = some q → Viable (ks ++ [k]) := by
    intro q hq
    refine viable_iff_after?.mpr ⟨q, ?_⟩
    simp [hp, hq]
  cases p with
  | before opened =>
      obtain ⟨v, rfl⟩ | rfl | rfl := hk
      · exact hstep (q := .behind opened) rfl
      · exact hstep (q := .before opened) rfl
      · exact hstep (q := .before (opened + 1)) rfl
  | behind opened =>
      cases opened with
      | zero =>
          obtain ⟨op, rfl⟩ | rfl := hk
          · exact hstep (q := .before 0) rfl
          · exact isPhrase_iff_after?.mpr hp
      | succ opened =>
          obtain rfl : k = .closing := hk
          exact hstep (q := .behind opened) rfl

/-! ### Errors at the place where the scan gets stuck -/

/-- No expression goes on from this place with the first of these tokens, or ends there if
there is none. -/
def Place.Stuck (q : Place) : List Token → Prop
  | [] => q ≠ .behind 0
  | t :: _ => q.next? t.kind = none

/-- An expression does not end before an operand. -/
theorem Place.before_stuck_nil (opened : Nat) : (Place.before opened).Stuck [] := by
  simp [Stuck]

/-- An expression does not end inside its parentheses. -/
theorem Place.behind_succ_stuck_nil (opened : Nat) : (Place.behind (opened + 1)).Stuck [] := by
  simp [Stuck]

/-- The error is that of the scan of these tokens from the place `p`: it is at the token with
which the scan gets stuck, or at the end mark behind them all, and it names what is expected
there. -/
def BlamesFirst (finish : Nat) (p : Place) (ts : List Token) (err : GrammarError) : Prop :=
  ∃ us rest q, ts = us ++ rest ∧ p.after? (us.map (·.kind)) = some q ∧ q.Stuck rest ∧
    err = unexpectedAt finish q.expected rest

/-- Tokens that are scanned may stand in front. -/
theorem BlamesFirst.append {finish : Nat} {p p' : Place} {us ts : List Token}
    {err : GrammarError} (hus : p.after? (us.map (·.kind)) = some p')
    (h : BlamesFirst finish p' ts err) : BlamesFirst finish p (us ++ ts) err := by
  obtain ⟨vs, rest, q, rfl, hvs, hstuck, herr⟩ := h
  exact ⟨us ++ vs, rest, q, by simp, by simp [hus, hvs], hstuck, herr⟩

/-- Before an operand, the rule reports too many levels, or the token with which the scan gets
stuck. -/
def Blames (finish : Nat) (rule : Rule) : Prop :=
  ∀ ts err, rule ts = .error err →
    (∃ limit pos, err = .tooDeep limit pos) ∨
      ∀ opened, BlamesFirst finish (.before opened) ts err

/-- What a sound rule reads takes the scan from before an operand to behind it. -/
theorem Sound.after? {room : Nat} {n : Nonterminal} {rule : Rule} (h : Sound room n rule)
    {ts rest : List Token} {e : Expr} (hread : rule ts = .ok (e, rest)) :
    ∃ us, ts = us ++ rest ∧
      ∀ opened, (Place.before opened).after? (us.map (·.kind)) = some (.behind opened) := by
  obtain ⟨us, rfl, levels, hus, -⟩ := h ts e rest hread
  exact ⟨us, rfl, after?_of_derives hus⟩

/-- A chain blames the token that its operands blame: each operator it takes leads to before
an operand. -/
theorem blames_chain {finish room : Nat} {n : Nonterminal} {operand : Rule}
    {op? : Kind → Option Op} (hop : ∀ {k : Kind} {op : Op}, op? k = some op → k = .operator op)
    (hsound : Sound room n operand) (hblames : Blames finish operand) {left : Expr}
    {ts : List Token} {err : GrammarError} (h : chain operand op? left ts = .error err) :
    (∃ limit pos, err = .tooDeep limit pos) ∨
      ∀ opened, BlamesFirst finish (.behind opened) ts err := by
  fun_induction chain operand op? left ts with
  | case1 left => cases h
  | case2 left t ts hnone => cases h
  | case3 left t ts op hsome err' herr =>
      cases h
      refine (hblames ts err herr).imp_right fun hfirst opened => ?_
      have hscan : (Place.behind opened).after? ([t].map (·.kind)) = some (.before opened) := by
        simp [hop hsome, Place.next?]
      exact (hfirst opened).append hscan
  | case4 left t ts op hsome right ts' hright hheight ih =>
      obtain ⟨vs, rfl, hvs⟩ := hsound.after? hright
      refine (ih h).imp_right fun hfirst opened => ?_
      have hscan : (Place.behind opened).after? ((t :: vs).map (·.kind))
          = some (.behind opened) := by
        simp [hop hsome, Place.next?, hvs]
      exact (hfirst opened).append hscan
  | case5 left t ts op hsome right ts' hright hheight =>
      cases h
      exact .inl ⟨maxHeight, t.pos, rfl⟩

/-- Operands joined by operators blame the token that an operand blames. -/
theorem blames_joined {finish room : Nat} {n : Nonterminal} {operand : Rule}
    {op? : Kind → Option Op} (hop : ∀ {k : Kind} {op : Op}, op? k = some op → k = .operator op)
    (hsound : Sound room n operand) (hblames : Blames finish operand) :
    Blames finish (joined op? operand) := by
  intro ts err h
  unfold joined at h
  split at h
  · rename_i herr
    cases h
    exact hblames ts err herr
  · rename_i left ts' hleft
    obtain ⟨us, rfl, hus⟩ := hsound.after? hleft
    refine (blames_chain hop hsound hblames h).imp_right fun hfirst opened => ?_
    exact (hfirst opened).append (hus opened)

/-- An expression blames the token that a factor blames. -/
theorem blames_expression {finish room : Nat} {factor : Rule} (hsound : Sound room .factor factor)
    (hblames : Blames finish factor) : Blames finish (expression factor) :=
  blames_joined (fun h => (termOp?_eq_some_iff.mp h).1) (sound_term hsound)
    (blames_joined (fun h => (factorOp?_eq_some_iff.mp h).1) hsound hblames)

/-! ### What stands behind an expression -/

/-- A chain stops where its operators do, behind an operand unless it is at its start. -/
theorem stops_of_chain {operand : Rule} {op? : Kind → Option Op} {left e : Expr}
    {ts rest : List Token} (h : chain operand op? left ts = .ok (e, rest)) :
    Stops op? rest ∧ (rest = ts ∨ ∃ us right, operand us = .ok (right, rest)) := by
  fun_induction chain operand op? left ts with
  | case1 left =>
      cases h
      exact ⟨by simp [Stops], .inl rfl⟩
  | case2 left t ts hnone =>
      cases h
      exact ⟨by simpa [Stops] using hnone, .inl rfl⟩
  | case3 left t ts op hsome err herr => cases h
  | case4 left t ts op hsome right ts' hright hheight ih =>
      obtain ⟨hstops, rfl | hoperand⟩ := ih h
      · exact ⟨hstops, .inr ⟨ts, right, hright⟩⟩
      · exact ⟨hstops, .inr hoperand⟩
  | case5 left t ts op hsome right ts' hright hheight => cases h

/-- Operands joined by operators stop where these operators do, behind an operand. -/
theorem stops_of_joined {operand : Rule} {op? : Kind → Option Op} {ts rest : List Token}
    {e : Expr} (h : joined op? operand ts = .ok (e, rest)) :
    Stops op? rest ∧ ∃ us right, operand us = .ok (right, rest) := by
  unfold joined at h
  split at h
  · cases h
  · rename_i left ts' hleft
    obtain ⟨hstops, rfl | hoperand⟩ := stops_of_chain h
    · exact ⟨hstops, ts, left, hleft⟩
    · exact ⟨hstops, hoperand⟩

/-- No operator stands behind an expression that was read: those of its last term would have
been taken by that term, and the others by the expression. -/
theorem ne_operator_of_expression {factor : Rule} {ts rest : List Token} {e : Expr} {t : Token}
    (h : expression factor ts = .ok (e, t :: rest)) (op : Op) : t.kind ≠ .operator op := by
  obtain ⟨hterm, us, right, hlast⟩ := stops_of_joined h
  obtain ⟨hfactor, -⟩ := stops_of_joined hlast
  have hnotTerm : termOp? t.kind = none := hterm t rfl
  have hnotFactor : factorOp? t.kind = none := hfactor t rfl
  intro hkind
  rw [hkind] at hnotTerm hnotFactor
  cases op with
  | add => cases hnotTerm
  | sub => cases hnotTerm
  | mul => cases hnotFactor
  | div => cases hnotFactor

/-- Before an operand the scan takes what begins a factor. -/
theorem next?_before_eq_none {opened : Nat} {k : Kind} (hnumber : ∀ v, k ≠ .number v)
    (hsub : k ≠ .operator .sub) (hopening : k ≠ .opening) :
    (Place.before opened).next? k = none := by
  cases k with
  | number v => exact absurd rfl (hnumber v)
  | operator op =>
      cases op with
      | sub => exact absurd rfl hsub
      | add => rfl
      | mul => rfl
      | div => rfl
  | opening => exact absurd rfl hopening
  | closing => rfl
  | finish => rfl

/-- Behind an operand the scan takes operators, and a closing parenthesis if one is open. -/
theorem next?_behind_eq_none {opened : Nat} {k : Kind} (hoperator : ∀ op, k ≠ .operator op)
    (hclosing : k = .closing → opened = 0) : (Place.behind opened).next? k = none := by
  cases k with
  | number v => rfl
  | operator op => exact absurd rfl (hoperator op)
  | opening => rfl
  | closing =>
      obtain rfl := hclosing rfl
      rfl
  | finish => rfl

/-! ### One factor -/

/-- A factor fails in five ways: with too many levels or too high a tree, with the factor
behind its minus sign, with the expression in its parentheses, where the parenthesis was to be
closed, and at a token that begins no factor. -/
theorem factor_eq_error {limit finish room : Nat} {ts : List Token} {err : GrammarError}
    (h : factor limit finish room ts = .error err) :
    (∃ limit' pos, err = .tooDeep limit' pos) ∨
    (∃ room' pos ts', room = room' + 1 ∧ ts = ⟨.operator .sub, pos⟩ :: ts' ∧
      factor limit finish room' ts' = .error err) ∨
    (∃ room' pos ts', room = room' + 1 ∧ ts = ⟨.opening, pos⟩ :: ts' ∧
      expression (factor limit finish room') ts' = .error err) ∨
    (∃ room' pos ts' e rest, room = room' + 1 ∧ ts = ⟨.opening, pos⟩ :: ts' ∧
      expression (factor limit finish room') ts' = .ok (e, rest) ∧
      (∀ t rest', rest = t :: rest' → t.kind ≠ .closing) ∧
      err = unexpectedAt finish .closing rest) ∨
    ((∀ opened, (Place.before opened).Stuck ts) ∧ err = unexpectedAt finish .operand ts) := by
  rw [factor.eq_def] at h
  split at h
  · cases h
  · rename_i pos ts'
    cases room with
    | zero =>
        cases h
        exact .inl ⟨limit, pos, rfl⟩
    | succ room =>
        simp only at h
        split at h
        · rename_i err' herr
          cases h
          exact .inr (.inl ⟨room, pos, ts', rfl, rfl, herr⟩)
        · unfold ofHeight at h
          split at h
          · cases h
          · cases h
            exact .inl ⟨maxHeight, pos, rfl⟩
  · rename_i pos ts'
    cases room with
    | zero =>
        cases h
        exact .inl ⟨limit, pos, rfl⟩
    | succ room =>
        simp only at h
        split at h
        · rename_i err' herr
          cases h
          exact .inr (.inr (.inl ⟨room, pos, ts', rfl, rfl, herr⟩))
        · cases h
        · rename_i e rest hclosing hread
          cases h
          refine .inr (.inr (.inr (.inl ⟨room, pos, ts', e, rest, rfl, rfl, hread, ?_, rfl⟩)))
          rintro ⟨k, pos'⟩ rest' rfl rfl
          exact hclosing pos' rest' rfl
  · rename_i hnumber hsub hopening
    cases h
    refine .inr (.inr (.inr (.inr ⟨fun opened => ?_, rfl⟩)))
    cases ts with
    | nil => exact Place.before_stuck_nil opened
    | cons t ts =>
        obtain ⟨k, pos⟩ := t
        refine next?_before_eq_none ?_ ?_ ?_
        · rintro v rfl
          exact hnumber v pos ts rfl
        · rintro rfl
          exact hsub pos ts rfl
        · rintro rfl
          exact hopening pos ts rfl

/-- **A factor blames the token with which the scan gets stuck.** The induction is on the
number of levels that may still be opened, as is the recursion. -/
theorem blames_factor (limit finish room : Nat) : Blames finish (factor limit finish room) := by
  induction room with
  | zero =>
      intro ts err h
      -- Without a level left there is nothing inside the factor to blame.
      obtain hdeep | ⟨_, _, _, h0, -⟩ | ⟨_, _, _, h0, -⟩ | ⟨_, _, _, _, _, h0, -⟩ |
        ⟨hstuck, herr⟩ := factor_eq_error h
      · exact .inl hdeep
      · cases h0
      · cases h0
      · cases h0
      · exact .inr fun opened => ⟨[], ts, .before opened, rfl, rfl, hstuck opened, herr⟩
  | succ room ih =>
      intro ts err h
      obtain hdeep | ⟨room', pos, ts', hroom, rfl, herr⟩ | ⟨room', pos, ts', hroom, rfl, herr⟩ |
        ⟨room', pos, ts', e, rest, hroom, rfl, hread, hclosing, herr⟩ | ⟨hstuck, herr⟩ :=
        factor_eq_error h
      · exact .inl hdeep
      · cases hroom
        refine (ih ts' err herr).imp_right fun hfirst opened => ?_
        have hscan : (Place.before opened).after?
            ([(⟨.operator .sub, pos⟩ : Token)].map (·.kind)) = some (.before opened) := rfl
        exact (hfirst opened).append hscan
      · cases hroom
        have hinner := blames_expression (sound_factor limit finish room) ih
        refine (hinner ts' err herr).imp_right fun hfirst opened => ?_
        have hscan : (Place.before opened).after?
            ([(⟨.opening, pos⟩ : Token)].map (·.kind)) = some (.before (opened + 1)) := rfl
        exact (hfirst (opened + 1)).append hscan
      · cases hroom
        -- The expression in parentheses was read, and the scan is behind it.
        obtain ⟨us, rfl, hus⟩ := (sound_expression (sound_factor limit finish room)).after? hread
        refine .inr fun opened =>
          ⟨⟨.opening, pos⟩ :: us, rest, .behind (opened + 1), rfl, ?_, ?_, herr⟩
        · simpa [Place.next?] using hus (opened + 1)
        · cases rest with
          | nil => exact Place.behind_succ_stuck_nil opened
          | cons t rest =>
              exact next?_behind_eq_none (ne_operator_of_expression hread)
                fun hkind => absurd hkind (hclosing t rest rfl)
      · exact .inr fun opened => ⟨[], ts, .before opened, rfl, rfl, hstuck opened, herr⟩

/-! ### The whole sequence -/

/-- The token with index `k`, counting the end mark behind `ts`, is the first one with which
the tokens are no calculation:

- `token`: it has the kind and the position of the error, and it is one of `ts` or the mark;
- `viable`: some expression begins with the tokens before it;
- `hopeless`: if it is one of `ts`, no expression begins with the tokens up to it;
- `unfinished`: if it is the mark, the tokens are no expression;
- `expected`: each kind that the error names can follow the tokens before it. -/
structure FirstHopeless (ts : List Token) (finish : Nat) (found : Kind) (expected : Expected)
    (pos k : Nat) : Prop where
  bound : k ≤ ts.length
  token : (ts ++ [⟨.finish, finish⟩])[k]? = some ⟨found, pos⟩
  viable : Viable ((ts.take k).map (·.kind))
  hopeless : k < ts.length → ¬ Viable ((ts.take (k + 1)).map (·.kind))
  unfinished : k = ts.length → ¬ IsPhrase .expression (ts.map (·.kind))
  expected : ∀ kind, expected.Names kind → CanFollow ((ts.take k).map (·.kind)) kind

/-- The token with which the scan gets stuck is the first hopeless one. -/
theorem exists_firstHopeless {ts : List Token} {finish : Nat} {found : Kind}
    {expected : Expected} {pos : Nat}
    (h : BlamesFirst finish (.before 0) ts (.unexpected found expected pos)) :
    ∃ k, FirstHopeless ts finish found expected pos k := by
  obtain ⟨us, rest, q, rfl, hus, hstuck, herr⟩ := h
  have hexpected : q.expected = expected := by
    cases rest <;> cases herr <;> rfl
  subst hexpected
  refine ⟨us.length, by simp, ?_, ?_, ?_, ?_, ?_⟩
  · cases rest with
    | nil =>
        cases herr
        simp
    | cons t rest =>
        cases herr
        simp
  · rw [List.take_left]
    exact viable_iff_after?.mpr ⟨q, hus⟩
  · intro hlt hviable
    cases rest with
    | nil => simp at hlt
    | cons t rest =>
        have htake : (us ++ t :: rest).take (us.length + 1) = us ++ [t] := by
          rw [List.append_cons]
          exact List.take_left' (by simp)
        rw [htake] at hviable
        obtain ⟨p, hp⟩ := viable_iff_after?.mp hviable
        have hnone : q.next? t.kind = none := hstuck
        simp [hus, hnone] at hp
  · intro hlength hphrase
    cases rest with
    | nil =>
        have hscan := isPhrase_iff_after?.mp hphrase
        simp only [List.append_nil, hus, Option.some.injEq] at hscan
        exact hstuck hscan
    | cons t rest => simp at hlength
  · rw [List.take_left]
    exact fun k hk => canFollow_of_names hus hk

/-- Tokens that have no tree are none at all, or nested too deeply, or blame the one with which
the scan gets stuck. -/
theorem ofTokens_eq_error {depth : Nat} {tokens : List Token} {err : GrammarError}
    (h : ofTokens depth tokens = .error err) :
    (body tokens = [] ∧ err = .emptyExpression) ∨ (∃ limit pos, err = .tooDeep limit pos) ∨
      BlamesFirst (finishPos tokens) (.before 0) (body tokens) err := by
  have hsound := sound_factor (min depth maxHeight) (finishPos tokens) (min depth maxHeight)
  unfold ofTokens at h
  split at h
  · rename_i hbody
    cases h
    exact .inl ⟨hbody, rfl⟩
  · rename_i t ts hbody
    rw [hbody]
    simp only at h
    split at h
    · rename_i err' herr
      cases h
      exact .inr ((blames_expression hsound (blames_factor _ _ _) _ _ herr).imp_right (· 0))
    · cases h
    · rename_i e rest hne hread
      cases h
      -- An expression was read, with no parenthesis open, and tokens are left.
      obtain ⟨us, hsplit, hus⟩ := (sound_expression hsound).after? hread
      refine .inr (.inr ⟨us, rest, .behind 0, hsplit, hus 0, ?_, rfl⟩)
      cases rest with
      | nil => exact (hne rfl).elim
      | cons t rest =>
          exact next?_behind_eq_none (ne_operator_of_expression hread) fun _ => rfl

/-- The error of a scan is an unexpected token. -/
theorem BlamesFirst.ne_emptyExpression {finish : Nat} {p : Place} {ts : List Token}
    {err : GrammarError} (h : BlamesFirst finish p ts err) : err ≠ .emptyExpression := by
  obtain ⟨us, rest, q, -, -, -, rfl⟩ := h
  cases rest with
  | nil => simp [unexpectedAt]
  | cons t rest => simp [unexpectedAt]

/-- Only no tokens at all are reported as an empty expression. -/
theorem ofTokens_eq_emptyExpression_iff {depth : Nat} {tokens : List Token} :
    ofTokens depth tokens = .error .emptyExpression ↔ body tokens = [] := by
  constructor
  · intro h
    obtain ⟨hbody, -⟩ | ⟨limit, pos, herr⟩ | hfirst := ofTokens_eq_error h
    · exact hbody
    · cases herr
    · exact absurd rfl hfirst.ne_emptyExpression
  · intro h
    simp only [ofTokens, h]

/-- **An unexpected token is the first one with which the tokens are no calculation.** Take
tokens without an end mark, at any positions, and an end mark behind them. Whatever the limit
is, if the reader reports an unexpected token, then some expression begins with the tokens
before it, none goes on with it, and everything that the error names as expected could have
stood there. An empty expression is reported when there are no tokens, and only then. -/
theorem ofTokens_error_at_first_hopeless (ts : List Token) (hts : ∀ t ∈ ts, t.kind ≠ .finish)
    (finish depth : Nat) :
    (∀ found expected pos,
      ofTokens depth (ts ++ [⟨.finish, finish⟩]) = .error (.unexpected found expected pos) →
        ∃ k, FirstHopeless ts finish found expected pos k) ∧
    (ofTokens depth (ts ++ [⟨.finish, finish⟩]) = .error .emptyExpression ↔ ts = []) := by
  refine ⟨?_, ?_⟩
  · intro found expected pos h
    obtain ⟨-, herr⟩ | ⟨limit, pos', herr⟩ | hfirst := ofTokens_eq_error h
    · cases herr
    · cases herr
    · rw [body_append_finish hts, finishPos_append_finish hts] at hfirst
      exact exists_firstHopeless hfirst
  · rw [ofTokens_eq_emptyExpression_iff, body_append_finish hts]

/-- In `2 * (3 + )` the closing parenthesis is the first hopeless token: an operand is missing
before it. -/
theorem closing_for_operand_blamed :
    let ts : List Token := [⟨.number 2, 0⟩, ⟨.operator .mul, 2⟩, ⟨.opening, 4⟩, ⟨.number 3, 5⟩,
      ⟨.operator .add, 7⟩, ⟨.closing, 9⟩]
    (∀ t ∈ ts, t.kind ≠ .finish) ∧
      ofTokens 64 (ts ++ [⟨.finish, 10⟩]) = .error (.unexpected .closing .operand 9) ∧
      ∃ k, FirstHopeless ts 10 .closing .operand 9 k := by
  intro ts
  have hts : ∀ t ∈ ts, t.kind ≠ .finish := by decide
  have herror : ofTokens 64 (ts ++ [⟨.finish, 10⟩]) = .error (.unexpected .closing .operand 9) := by
    cbv
  exact ⟨hts, herror, (ofTokens_error_at_first_hopeless ts hts 10 64).1 _ _ _ herror⟩

end Expr

end AnswerDesk
