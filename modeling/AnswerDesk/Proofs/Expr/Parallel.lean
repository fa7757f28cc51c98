import AnswerDesk.Proofs.Expr.Reader

/-!
# `AnswerDesk.Proofs.Expr.Parallel`: two readings side by side

The reader often has to be compared with itself: on the same tokens at other positions, with
other tokens behind the end of a calculation, or with more room for levels. In each case two
readings take the same way, token by token, and end alike. So they are compared here once, with
all these differences at the same time.

`Follows` says that a rule keeps step with another one. It sees the tokens of the other at other
positions, with a tail behind them that looks like their end (`LooksLikeEnd`), and it returns
what the other returns, with the positions moved and the tail still there. It need not do so
where the other one gives up for a reason that it does not share.

Every way to build a rule from others keeps this: `follows_chain` and `follows_joined` for the
operators, `follows_factor` for the levels. The latter needs the second rule to have as much room
as the first. If it has more, the first may give up for want of room.
-/

set_option autoImplicit false

namespace AnswerDesk

open Token (Kind)

/-- The token at the image of its position. -/
def Token.moved (f : Nat → Nat) (t : Token) : Token where
  kind := t.kind
  pos := f t.pos

@[simp] theorem Token.kind_moved (f : Nat → Nat) (t : Token) : (t.moved f).kind = t.kind :=
  rfl

@[simp] theorem Token.pos_moved (f : Nat → Nat) (t : Token) : (t.moved f).pos = f t.pos :=
  rfl

@[simp] theorem Token.map_moved_id (ts : List Token) : ts.map (Token.moved id) = ts :=
  List.map_id _

/-- The error at the image of its position, if it has one. -/
def GrammarError.moved (f : Nat → Nat) : GrammarError → GrammarError
  | .unexpected found expected pos => .unexpected found expected (f pos)
  | .emptyExpression => .emptyExpression
  | .tooDeep limit pos => .tooDeep limit (f pos)

@[simp] theorem GrammarError.moved_id (err : GrammarError) : err.moved id = err := by
  cases err <;> rfl

namespace Expr

/-! ### Rules that keep step -/

/-- What a rule returns, with the positions moved and with `tail` behind the tokens that it did
not use. -/
def carried (f : Nat → Nat) (tail : List Token) :
    Except GrammarError (Expr × List Token) → Except GrammarError (Expr × List Token)
  | .ok (e, rest) => .ok (e, rest.map (Token.moved f) ++ tail)
  | .error err => .error (err.moved f)

/-- On tokens that are moved and have `tail` behind them, the second rule does what the first one
does without, unless that one gives up. -/
def Follows (f : Nat → Nat) (tail : List Token) (GivesUp : GrammarError → Prop)
    (rule rule' : Rule) : Prop :=
  ∀ ts, (∃ err, rule ts = .error err ∧ GivesUp err) ∨
    rule' (ts.map (Token.moved f) ++ tail) = carried f tail (rule ts)

/-- In front of `tail`, a reading whose end is at `finish` finds the end at `pos`: there is
nothing left, or an end mark comes. -/
def LooksLikeEnd (finish pos : Nat) : List Token → Prop
  | [] => finish = pos
  | t :: _ => t = ⟨.finish, pos⟩

section
variable {f : Nat → Nat} {tail : List Token} {GivesUp : GrammarError → Prop} {rule rule' : Rule}
  {finish finish' : Nat}

/-- What the one rule reads, the other reads too. -/
theorem Follows.of_ok (h : Follows f tail GivesUp rule rule') {ts rest : List Token} {e : Expr}
    (hread : rule ts = .ok (e, rest)) :
    rule' (ts.map (Token.moved f) ++ tail) = .ok (e, rest.map (Token.moved f) ++ tail) := by
  obtain ⟨err, herr, -⟩ | hsame := h ts
  · rw [hread] at herr
    cases herr
  · rw [hsame, hread]
    rfl

/-- Where the one rule fails, it gives up or the other fails too. -/
theorem Follows.of_error (h : Follows f tail GivesUp rule rule') {ts : List Token}
    {err : GrammarError} (herr : rule ts = .error err) :
    GivesUp err ∨ rule' (ts.map (Token.moved f) ++ tail) = .error (err.moved f) := by
  obtain ⟨err', herr', hgivesUp⟩ | hsame := h ts
  · rw [herr] at herr'
    cases herr'
    exact .inl hgivesUp
  · rw [hsame, herr]
    exact .inr rfl

/-- A token is unexpected where it stands now, and so is the end. -/
theorem unexpectedAt_moved_append (hend : LooksLikeEnd finish' (f finish) tail)
    (expected : Expected) (ts : List Token) :
    unexpectedAt finish' expected (ts.map (Token.moved f) ++ tail)
      = (unexpectedAt finish expected ts).moved f := by
  cases ts with
  | cons t ts => rfl
  | nil =>
      cases tail with
      | nil => exact congrArg _ hend
      | cons mark more =>
          cases hend
          rfl

/-- Operators do not go on behind the end. -/
theorem stops_of_looksLikeEnd {op? : Kind → Option Op} (hop : op? .finish = none)
    (hend : LooksLikeEnd finish' (f finish) tail) : Stops op? tail := by
  cases tail with
  | nil => simp [Stops]
  | cons mark more =>
      cases hend
      simpa [Stops] using hop

theorem ofHeight_moved_append (f : Nat → Nat) (tail : List Token) (e : Expr) (pos : Nat)
    (rest : List Token) :
    ofHeight e (f pos) (rest.map (Token.moved f) ++ tail) = carried f tail (ofHeight e pos rest) := by
  unfold ofHeight
  split <;> rfl

/-- A chain keeps step if its operands do. -/
theorem follows_chain {op? : Kind → Option Op} (hop : op? .finish = none)
    (hend : LooksLikeEnd finish' (f finish) tail) (h : Follows f tail GivesUp rule rule')
    (left : Expr) (ts : List Token) :
    (∃ err, chain rule op? left ts = .error err ∧ GivesUp err) ∨
      chain rule' op? left (ts.map (Token.moved f) ++ tail)
        = carried f tail (chain rule op? left ts) := by
  fun_induction chain rule op? left ts with
  | case1 left => exact .inr (chain_of_stops (stops_of_looksLikeEnd hop hend))
  | case2 left t ts hnone => exact .inr (chain_of_stops (by simpa [Stops] using hnone))
  | case3 left t ts op hsome err herr =>
      exact (h.of_error herr).imp (fun hgivesUp => ⟨err, rfl, hgivesUp⟩)
        fun herr' => chain_of_error (t := t.moved f) hsome herr'
  | case4 left t ts op hsome right ts' hright hheight ih =>
      have hstep := chain_of_operand (t := t.moved f) hsome (h.of_ok hright) hheight
      exact ih.imp_right hstep.trans
  | case5 left t ts op hsome right ts' hright hheight =>
      refine .inr ?_
      rw [List.map_cons, List.cons_append, chain, Token.kind_moved, hsome]
      simp only [h.of_ok hright, hheight, dif_neg, not_false_eq_true]
      rfl

/-- Operands joined by operators keep step if the operands do. -/
theorem follows_joined {op? : Kind → Option Op} (hop : op? .finish = none)
    (hend : LooksLikeEnd finish' (f finish) tail) (h : Follows f tail GivesUp rule rule') :
    Follows f tail GivesUp (joined op? rule) (joined op? rule') := by
  intro ts
  cases hleft : rule ts with
  | error err =>
      rw [joined_of_error hleft]
      exact (h.of_error hleft).imp (fun hgivesUp => ⟨err, rfl, hgivesUp⟩) joined_of_error
  | ok result =>
      obtain ⟨left, rest⟩ := result
      rw [joined_of_operand hleft, joined_of_operand (h.of_ok hleft)]
      exact follows_chain hop hend h left rest

/-- An expression keeps step if its factors do. -/
theorem follows_expression (hend : LooksLikeEnd finish' (f finish) tail)
    (h : Follows f tail GivesUp rule rule') :
    Follows f tail GivesUp (expression rule) (expression rule') :=
  follows_joined rfl hend (follows_joined rfl hend h)

end

/-! ### One factor -/

/-- No factor begins with the first of these tokens, if there is one. -/
def BeginNoFactor (ts : List Token) : Prop :=
  ∀ t ∈ ts.head?, (∀ v, t.kind ≠ .number v) ∧ t.kind ≠ .operator .sub ∧ t.kind ≠ .opening

/-- A factor begins with a number, a minus sign or an opening parenthesis. -/
theorem begin_cases (ts : List Token) :
    (∃ v pos rest, ts = ⟨.number v, pos⟩ :: rest) ∨
    (∃ pos rest, ts = ⟨.operator .sub, pos⟩ :: rest) ∨
    (∃ pos rest, ts = ⟨.opening, pos⟩ :: rest) ∨ BeginNoFactor ts := by
  cases ts with
  | nil => simp [BeginNoFactor]
  | cons t rest =>
      obtain ⟨k, pos⟩ := t
      cases k with
      | number v => exact .inl ⟨v, pos, rest, rfl⟩
      | operator op => cases op <;> simp [BeginNoFactor]
      | opening => exact .inr (.inr (.inl ⟨pos, rest, rfl⟩))
      | closing => simp [BeginNoFactor]
      | finish => simp [BeginNoFactor]

/-- What begins no factor is refused, whatever there is room for. -/
theorem factor_refuses {ts : List Token} (h : BeginNoFactor ts) (limit finish room : Nat) :
    factor limit finish room ts = .error (unexpectedAt finish .operand ts) := by
  rw [factor.eq_def]
  split
  · exact absurd rfl ((h _ rfl).1 _)
  · exact absurd rfl (h _ rfl).2.1
  · exact absurd rfl (h _ rfl).2.2
  · rfl

section
variable {f : Nat → Nat} {tail : List Token} {GivesUp : GrammarError → Prop}
  {limit limit' finish finish' room room' : Nat}

/-- No factor begins at the end. -/
theorem BeginNoFactor.moved_append (hend : LooksLikeEnd finish' (f finish) tail)
    {ts : List Token} (h : BeginNoFactor ts) :
    BeginNoFactor (ts.map (Token.moved f) ++ tail) := by
  cases ts with
  | cons t ts => simpa [BeginNoFactor] using h
  | nil =>
      cases tail with
      | nil => exact h
      | cons mark more =>
          cases hend
          simp [BeginNoFactor]

/-- Behind a minus sign, a factor keeps step if the factors inside do. -/
theorem follows_factor_sub
    (h : Follows f tail GivesUp (factor limit finish room) (factor limit' finish' room'))
    (pos : Nat) (ts : List Token) :
    (∃ err, factor limit finish (room + 1) (⟨.operator .sub, pos⟩ :: ts) = .error err ∧
        GivesUp err) ∨
      factor limit' finish' (room' + 1) (⟨.operator .sub, f pos⟩ :: (ts.map (Token.moved f) ++ tail))
        = carried f tail (factor limit finish (room + 1) (⟨.operator .sub, pos⟩ :: ts)) := by
  rw [factor_succ_sub, factor_succ_sub]
  cases hx : factor limit finish room ts with
  | error err =>
      refine (h.of_error hx).imp (fun hgivesUp => ⟨err, rfl, hgivesUp⟩) fun herr => ?_
      simp only [herr]
      rfl
  | ok result =>
      obtain ⟨x, rest⟩ := result
      simp only [h.of_ok hx]
      exact .inr (ofHeight_moved_append f tail _ pos rest)

/-- In parentheses, a factor keeps step if the factors inside do. -/
theorem follows_factor_opening (hend : LooksLikeEnd finish' (f finish) tail)
    (h : Follows f tail GivesUp (factor limit finish room) (factor limit' finish' room'))
    (pos : Nat) (ts : List Token) :
    (∃ err, factor limit finish (room + 1) (⟨.opening, pos⟩ :: ts) = .error err ∧ GivesUp err) ∨
      factor limit' finish' (room' + 1) (⟨.opening, f pos⟩ :: (ts.map (Token.moved f) ++ tail))
        = carried f tail (factor limit finish (room + 1) (⟨.opening, pos⟩ :: ts)) := by
  have hinner := follows_expression hend h
  rw [factor_succ_opening, factor_succ_opening]
  cases hx : expression (factor limit finish room) ts with
  | error err =>
      refine (hinner.of_error hx).imp (fun hgivesUp => ⟨err, rfl, hgivesUp⟩) fun herr => ?_
      simp only [herr]
      rfl
  | ok result =>
      obtain ⟨x, rest⟩ := result
      simp only [hinner.of_ok hx]
      refine .inr ?_
      -- Whether the parenthesis is closed depends on the kind of the next token.
      cases rest with
      | cons t rest =>
          obtain ⟨k, p⟩ := t
          cases k <;> rfl
      | nil =>
          cases tail with
          | nil => exact congrArg Except.error (unexpectedAt_moved_append hend .closing [])
          | cons mark more =>
              cases hend
              rfl

/-- A factor keeps step if the factors inside do, which have one level less. Without room for a
level, both fail alike if they have the same room and the same limit. Otherwise the first one
gives up. -/
theorem follows_factor_of_inner (hend : LooksLikeEnd finish' (f finish) tail)
    (hroom : room ≤ room')
    (hdeep : (limit' = limit ∧ room' = room) ∨ ∀ pos, GivesUp (.tooDeep limit pos))
    (h : ∀ r r', room = r + 1 → room' = r' + 1 →
      Follows f tail GivesUp (factor limit finish r) (factor limit' finish' r')) :
    Follows f tail GivesUp (factor limit finish room) (factor limit' finish' room') := by
  intro ts
  obtain ⟨v, pos, rest, rfl⟩ | ⟨pos, rest, rfl⟩ | ⟨pos, rest, rfl⟩ | hnone := begin_cases ts
  · rw [factor_number]
    exact .inr (factor_number limit' finish' room' v (f pos) _)
  · cases room with
    | zero =>
        rw [factor_zero_sub]
        refine hdeep.symm.imp (fun hgivesUp => ⟨_, rfl, hgivesUp pos⟩) ?_
        rintro ⟨rfl, rfl⟩
        exact factor_zero_sub limit' finish' (f pos) _
    | succ room =>
        obtain ⟨room', rfl⟩ : ∃ r, room' = r + 1 := ⟨room' - 1, by omega⟩
        exact follows_factor_sub (h room room' rfl rfl) pos rest
  · cases room with
    | zero =>
        rw [factor_zero_opening]
        refine hdeep.symm.imp (fun hgivesUp => ⟨_, rfl, hgivesUp pos⟩) ?_
        rintro ⟨rfl, rfl⟩
        exact factor_zero_opening limit' finish' (f pos) _
    | succ room =>
        obtain ⟨room', rfl⟩ : ∃ r, room' = r + 1 := ⟨room' - 1, by omega⟩
        exact follows_factor_opening hend (h room room' rfl rfl) pos rest
  · refine .inr ?_
    rw [factor_refuses hnone, factor_refuses (hnone.moved_append hend),
      unexpectedAt_moved_append hend]
    rfl

/-- **A factor keeps step** with one that has no more room. The induction is on the number of
levels that the latter may still open, as is the recursion. -/
theorem follows_factor (hend : LooksLikeEnd finish' (f finish) tail) (hroom : room ≤ room')
    (hdeep : (limit' = limit ∧ room' = room) ∨ ∀ pos, GivesUp (.tooDeep limit pos)) :
    Follows f tail GivesUp (factor limit finish room) (factor limit' finish' room') := by
  induction room generalizing room' with
  | zero => exact follows_factor_of_inner hend hroom hdeep nofun
  | succ room ih =>
      refine follows_factor_of_inner hend hroom hdeep fun r r' hr hr' => ?_
      cases hr
      exact ih (by omega) (hdeep.imp_left fun ⟨hlimit, hsame⟩ => ⟨hlimit, by omega⟩)

end

/-! ### The whole sequence -/

/-- Two sequences are read alike if their bodies are the same but for the positions, and the
second is given as many levels as the first. With more of them, the first may be refused where a
level is opened that is too many. -/
theorem ofTokens_follows {f : Nat → Nat} (GivesUp : GrammarError → Prop) {depth depth' : Nat}
    {tokens tokens' : List Token} (hbody : body tokens' = (body tokens).map (Token.moved f))
    (hfinish : body tokens ≠ [] → finishPos tokens' = f (finishPos tokens))
    (hroom : min depth maxHeight ≤ min depth' maxHeight)
    (hdeep : min depth' maxHeight = min depth maxHeight ∨
      ∀ pos, GivesUp (.tooDeep (min depth maxHeight) pos)) :
    (∃ err, ofTokens depth tokens = .error err ∧ GivesUp err) ∨
      ofTokens depth' tokens' = (ofTokens depth tokens).mapError (GrammarError.moved f) := by
  unfold ofTokens
  rw [hbody]
  cases hcons : body tokens with
  | nil => exact .inr rfl
  | cons t ts =>
      have hend : LooksLikeEnd (finishPos tokens') (f (finishPos tokens)) [] :=
        hfinish (by simp [hcons])
      have hfollows := follows_expression hend
        (follows_factor hend hroom (hdeep.imp_left fun hsame => ⟨hsame, hsame⟩))
      cases hread : expression
          (factor (min depth maxHeight) (finishPos tokens) (min depth maxHeight)) (t :: ts) with
      | error err =>
          simp only [hread, List.map_cons]
          refine (hfollows.of_error hread).imp (fun hgivesUp => ⟨err, rfl, hgivesUp⟩)
            fun herr => ?_
          rw [List.append_nil, List.map_cons] at herr
          simp only [herr]
          rfl
      | ok result =>
          obtain ⟨e, rest⟩ := result
          have hok := hfollows.of_ok hread
          rw [List.append_nil, List.append_nil, List.map_cons] at hok
          refine .inr ?_
          simp only [hread, List.map_cons, hok]
          cases rest <;> rfl

end Expr

end AnswerDesk
