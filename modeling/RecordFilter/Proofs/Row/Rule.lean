import RecordFilter.Proofs.Normal.Walk
import RecordFilter.Proofs.Row.Spelling

/-!
# Rules on rows

Each of the first seven rules does to the pieces of a row what it does to their text: it looks at
one piece and the next one, or at the first piece alone. Blanks around connectives do not matter to
it, so it leaves a spelling of the row that the corresponding rule on rows leaves.

## Main statements

* `Simulates.spells`: one rule on a row and on its spelling.
* `simulates_emptyGroup`, ..., `simulates_closeBeforeCondition`: the rules that walk along the text.
* `Spells.dropLeadingConnective`: the rule for the start of the text.
-/

namespace RecordFilter.Normal

open Text

/-! ## Rules on rows -/

/-- What is to stand in place of a piece and the next one, if the rule applies to them. -/
abbrev RowRule := Piece → Option Piece → Option (List Piece)

/-- The walk along a row; the flag says that the next piece has already been replaced. -/
def sweepFrom (r : RowRule) : Bool → List Piece → List Piece
  | _, [] => []
  | true, _ :: ps => sweepFrom r false ps
  | false, p :: ps =>
    match r p ps.head? with
    | some new => new ++ sweepFrom r true ps
    | none => p :: sweepFrom r false ps

/-- Apply a rule to a row from left to right; what was written is not looked at again. -/
def sweep (r : RowRule) (ps : List Piece) : List Piece := sweepFrom r false ps

def emptyPair : RowRule
  | .opening, some .closing => some []
  | _, _ => none

def jointBeforeClosing : RowRule
  | .joint _, some .closing => some [.closing]
  | _, _ => none

def jointAfterOpening : RowRule
  | .opening, some (.joint _) => some [.opening]
  | _, _ => none

def doubledJoint : RowRule
  | .joint _, some (.joint d) => some [.joint d]
  | _, _ => none

def trailingJoint : RowRule
  | .joint _, none => some []
  | _, _ => none

def closingBeforeOperand : RowRule
  | .closing, some (.operand w) => some [.closing, .joint .and, .operand w]
  | _, _ => none

def dropLeadingJoint : List Piece → List Piece
  | .joint _ :: ps => ps
  | ps => ps

/-- What a pass does to the connectives of a row. -/
def tidyJoints (ps : List Piece) : List Piece :=
  ps |> sweep jointBeforeClosing
    |> sweep jointAfterOpening
    |> sweep doubledJoint
    |> dropLeadingJoint
    |> sweep trailingJoint
    |> sweep closingBeforeOperand

/-- What a pass does to a row. -/
def tidy (ps : List Piece) : List Piece := tidyJoints (sweep emptyPair ps)

section
variable {r : RowRule} {p : Piece} {ps : List Piece}

@[simp] theorem sweep_nil (r : RowRule) : sweep r [] = [] := rfl

theorem sweep_cons_none (h : r p ps.head? = none) : sweep r (p :: ps) = p :: sweep r ps := by
  rw [sweep, sweepFrom, h]
  rfl

theorem sweep_cons_some {new : List Piece} (h : r p ps.head? = some new) :
    sweep r (p :: ps) = new ++ sweep r ps.tail := by
  have htail : sweepFrom r true ps = sweep r ps.tail := by cases ps <;> rfl
  rw [sweep, sweepFrom, h, htail]

/-- Induction along the walk of a rule: a piece is kept, or it is replaced together with the next
one and the walk goes on behind both. -/
@[elab_as_elim]
theorem sweep_induction {motive : List Piece → Prop} (r : RowRule) (ps : List Piece)
    (nil : motive [])
    (keep : ∀ p ps, r p ps.head? = none → motive ps → motive (p :: ps))
    (write : ∀ p ps new, r p ps.head? = some new → motive ps.tail → motive (p :: ps)) :
    motive ps := by
  have both : motive ps ∧ motive ps.tail := by
    induction ps with
    | nil => exact ⟨nil, nil⟩
    | cons p ps ih =>
      refine ⟨?_, ih.1⟩
      cases hnew : r p ps.head? with
      | none => exact keep p ps hnew ih.1
      | some new => exact write p ps new hnew ih.2
  exact both.1

end

theorem emptyPair_eq_some {p : Piece} {q : Option Piece} {new : List Piece}
    (h : emptyPair p q = some new) : p = .opening ∧ q = some .closing ∧ new = [] := by
  unfold emptyPair at h
  split at h
  · exact ⟨rfl, rfl, (Option.some.inj h).symm⟩
  · cases h

/-! ## One rule -/

/-- From the spelling, the walk writes a spelling of `new` and goes on with one of `rest`. -/
def Turns (pat : Pattern) (after : Bool) (n : Nat) (s : List Char) (new rest : List Piece) : Prop :=
  ∃ after' n' u t, Spells after' n' rest t ∧ replaceAll pat s = u ++ replaceAll pat t ∧
    ∀ row v, Spells after' n' row v → Spells after n (new ++ row) (u ++ v)

/-- The pattern finds in the spelling of a row what the rule finds in the row. -/
structure Simulates (pat : Pattern) (r : RowRule) : Prop where
  covers : Covers pat
  blanks : ∀ {b}, Blanks b → pat b = none
  mark : ∀ {n ps s} (c : Connective), Spells true n ps s → pat (c.mark :: s) = none
  keeps : ∀ {n p ps b s}, p.Proper → Blanks b → Spells p.isJoint (n + p.slots) ps s →
    r p ps.head? = none → pat (b ++ (p.core n ++ s)) = none
  turns : ∀ {after n p ps b s new}, p.Proper → Gap after p b →
    Spells p.isJoint (n + p.slots) ps s → r p ps.head? = some new →
    Turns pat after n (b ++ (p.core n ++ s)) new ps.tail

section
variable {pat : Pattern} {r : RowRule} {after : Bool} {n : Nat} {p : Piece} {ps : List Piece}
  {b s : List Char}

/-- Where no occurrence starts in the blanks before a piece or with the piece, both stay. -/
theorem Simulates.turns_keep (h : Simulates pat r) (hp : p.Proper) (hb : Gap after p b)
    (hs : Spells p.isJoint (n + p.slots) ps s) (hr : r p ps.head? = none) :
    Turns pat after n (b ++ (p.core n ++ s)) [p] ps := by
  refine ⟨p.isJoint, n + p.slots, b ++ p.core n, s, hs, ?_, ?_⟩
  · have hcore : replaceAll pat (p.core n ++ s) = p.core n ++ replaceAll pat s := by
      have hfirst := h.keeps hp blanks_nil hs hr
      cases p with
      | operand w => exact replaceAll_plain_append h.covers (fun x hx => IsOperand.isPlain hp hx) s
      | joint c =>
        exact (replaceAll_cons_none hfirst).trans
          (congrArg _ (replaceAll_cons_none (h.mark c hs)))
      | opening => exact replaceAll_cons_none hfirst
      | closing => exact replaceAll_cons_none hfirst
    have hblanks := replaceAll_append_of_none (fun hb _ => h.keeps hp hb hs hr) hb.blanks
    rw [hblanks, hcore, List.append_assoc]
  · intro row v hv
    rw [List.append_assoc]
    exact .cons hp hb hv

/-- What the rule does to a row, the pattern does to its spelling. -/
theorem Simulates.spells (h : Simulates pat r) (hs : Spells after n ps s) :
    Spells after n (sweep r ps) (replaceAll pat s) := by
  induction hlen : ps.length using Nat.strongRecOn generalizing after n ps s with
  | _ k ih =>
    subst hlen
    cases hs with
    | nil hb hnone =>
      rw [sweep_nil, replaceAll_blanks h.blanks hb]
      exact .nil hb hnone
    | @cons _ _ p ps b s hp hb hs =>
      cases hr : r p ps.head? with
      | none =>
        obtain ⟨after', n', u, t, ht, hreplace, hturn⟩ := h.turns_keep hp hb hs hr
        rw [sweep_cons_none hr, hreplace]
        exact hturn _ _ (ih ps.length (by simp) ht rfl)
      | some new =>
        obtain ⟨after', n', u, t, ht, hreplace, hturn⟩ := h.turns hp hb hs hr
        rw [sweep_cons_some hr, hreplace]
        have hshorter : ps.tail.length < (p :: ps).length := by
          rw [List.length_tail, List.length_cons]
          omega
        exact hturn _ _ (ih ps.tail.length hshorter ht rfl)

end

/-! ## The rules one by one -/

/-- The blanks before a bracket or an operand may stand before whatever stands in its place. -/
theorem Gap.behind {after : Bool} {n : Nat} {p : Piece} {ps : List Piece} {b s : List Char}
    (hb : Gap after p b) (hp : p.isJoint = false) (hne : p ≠ .closing)
    (hs : Spells false n ps s) : Spells after n ps (b ++ s) := by
  cases after with
  | false =>
    rw [hb.none rfl hp]
    exact hs
  | true => exact hs.prepend hb.blanks (hb.some rfl hne)

theorem Spells.connectiveAhead?_mark {n : Nat} {ps : List Piece} {s : List Char}
    (h : Spells true n ps s) (c : Connective) : connectiveAhead? (c.mark :: s) = none := by
  rw [Option.eq_none_iff_forall_ne_some]
  rintro ⟨d, r⟩ hd
  have hread := Connective.read?_eq_some_iff.1 hd
  rw [skipBlanks_of_solid (solid_cons.2 (isBlank_mark c))] at hread
  exact h.ne_mark_cons d r (List.cons.inj hread).2

theorem simulates_emptyGroup : Simulates emptyGroup emptyPair where
  covers := covers_emptyGroup
  blanks := none_of_blanks rfl emptyGroup_cons_blank
  mark := by
    intro n ps s c _
    simp [emptyGroup]
  keeps := by
    intro n p ps b s hp hb hs hr
    rw [Option.eq_none_iff_forall_ne_some]
    intro o ho
    obtain ⟨-, b', hb', heq⟩ := emptyGroup_eq_some_iff.1 ho
    obtain ⟨rfl, rfl⟩ := hp.eq_opening hb heq
    obtain ⟨qs, rfl, -⟩ := hs.eq_closing_cons (skipBlanks_append hb' _)
    cases hr
  turns := by
    intro after n p ps b s new hp hb hs hr
    obtain ⟨rfl, hq, rfl⟩ := emptyPair_eq_some hr
    obtain ⟨qs, rfl⟩ := List.head?_eq_some_iff.1 hq
    cases hs with | @cons _ _ _ _ b' t _ hb' ht =>
    obtain rfl := hb'.none rfl rfl
    have hfind : emptyGroup ('(' :: ')' :: t) = some ⟨[], t⟩ := rfl
    refine ⟨false, n, b, t, ht, ?_, fun row v hv => hb.behind rfl (by simp) hv⟩
    rw [replaceAll_blanks_append emptyGroup_cons_blank hb.blanks]
    exact congrArg (b ++ ·) (replaceAll_of_eq_some covers_emptyGroup hfind)

theorem simulates_connectiveBeforeClose :
    Simulates connectiveBeforeClose jointBeforeClosing where
  covers := covers_connectiveBeforeClose
  blanks := by
    intro b hb
    simp [connectiveBeforeClose, connectiveAhead?_blanks hb]
  mark := by
    intro n ps s c hs
    simp [connectiveBeforeClose, hs.connectiveAhead?_mark c]
  keeps := by
    intro n p ps b s hp hb hs hr
    unfold connectiveBeforeClose
    split
    · next c r hc =>
      obtain ⟨rfl, rfl⟩ := hp.eq_joint hb hc
      split
      · next rest hrest =>
        obtain ⟨qs, rfl, -⟩ := hs.eq_closing_cons hrest
        cases hr
      · rfl
    · rfl
  turns := by
    intro after n p ps b s new hp hb hs hr
    unfold jointBeforeClosing at hr
    split at hr
    · next c hq =>
      obtain ⟨qs, rfl⟩ := List.head?_eq_some_iff.1 hq
      cases hr
      cases hs with | @cons _ _ _ _ b' t _ hb' ht =>
      have hfind : connectiveBeforeClose (b ++ c.mark :: c.mark :: (b' ++ ')' :: t)) =
          some ⟨[')'], t⟩ :=
        connectiveBeforeClose_eq_some_iff.2 ⟨rfl, c, b, b', hb.blanks, hb'.blanks, rfl⟩
      refine ⟨false, n, [')'], t, ht, replaceAll_of_eq_some covers_connectiveBeforeClose hfind, ?_⟩
      have hgap : Gap after .closing [] := ⟨blanks_nil, by simp, by simp⟩
      exact fun row v hv => .cons (p := .closing) trivial hgap hv
    · cases hr

theorem simulates_connectiveAfterOpen : Simulates connectiveAfterOpen jointAfterOpening where
  covers := covers_connectiveAfterOpen
  blanks := none_of_blanks rfl connectiveAfterOpen_cons_blank
  mark := by
    intro n ps s c _
    simp [connectiveAfterOpen]
  keeps := by
    intro n p ps b s hp hb hs hr
    rw [Option.eq_none_iff_forall_ne_some]
    intro o ho
    obtain ⟨-, -, c, b', b'', hb', -, heq⟩ := connectiveAfterOpen_eq_some_iff.1 ho
    obtain ⟨rfl, rfl⟩ := hp.eq_opening hb heq
    obtain ⟨qs, rfl, -⟩ := hs.eq_joint_cons (connectiveAhead?_append hb' c _)
    cases hr
  turns := by
    intro after n p ps b s new hp hb hs hr
    unfold jointAfterOpening at hr
    split at hr
    · next c hq =>
      obtain ⟨qs, rfl⟩ := List.head?_eq_some_iff.1 hq
      cases hr
      cases hs with | @cons _ _ _ _ b' t _ hb' ht =>
      have hfind : connectiveAfterOpen ('(' :: (b' ++ c.mark :: c.mark :: t)) =
          some ⟨['('], skipBlanks t⟩ := by
        simp [connectiveAfterOpen, connectiveAhead?_append hb'.blanks]
      refine ⟨false, n, b ++ ['('], skipBlanks t, ht.strip, ?_, ?_⟩
      · rw [replaceAll_blanks_append connectiveAfterOpen_cons_blank hb.blanks, List.append_assoc]
        exact congrArg (b ++ ·) (replaceAll_of_eq_some covers_connectiveAfterOpen hfind)
      · intro row v hv
        rw [List.append_assoc]
        exact .cons (p := .opening) trivial hb hv
    · cases hr

theorem simulates_doubledConnective : Simulates doubledConnective doubledJoint where
  covers := covers_doubledConnective
  blanks := none_of_blanks rfl doubledConnective_cons_blank
  mark := by
    intro n ps s c hs
    rw [Option.eq_none_iff_forall_ne_some]
    intro o ho
    obtain ⟨d, e, b, -, -, heq⟩ := doubledConnective_eq_some_iff.1 ho
    exact hs.ne_mark_cons d _ (List.cons.inj heq).2
  keeps := by
    intro n p ps b s hp hb hs hr
    rw [Option.eq_none_iff_forall_ne_some]
    intro o ho
    obtain ⟨c, d, b', hb', -, heq⟩ := doubledConnective_eq_some_iff.1 ho
    have hahead : connectiveAhead? (b ++ (p.core n ++ s)) =
        some (c, b' ++ d.mark :: d.mark :: o.rest) := by
      rw [heq]
      exact connectiveAhead?_append blanks_nil c _
    obtain ⟨rfl, rfl⟩ := hp.eq_joint hb hahead
    obtain ⟨qs, rfl, -⟩ := hs.eq_joint_cons (connectiveAhead?_append hb' d _)
    cases hr
  turns := by
    intro after n p ps b s new hp hb hs hr
    unfold doubledJoint at hr
    split at hr
    · next c d hq =>
      obtain ⟨qs, rfl⟩ := List.head?_eq_some_iff.1 hq
      cases hr
      cases hs with | @cons _ _ _ _ b' t _ hb' ht =>
      have hfind : doubledConnective (c.mark :: c.mark :: (b' ++ d.mark :: d.mark :: t)) =
          some ⟨[d.mark, d.mark], t⟩ :=
        doubledConnective_eq_some_iff.2 ⟨c, d, b', hb'.blanks, rfl, rfl⟩
      refine ⟨true, n, b ++ [d.mark, d.mark], t, ht, ?_, ?_⟩
      · rw [replaceAll_blanks_append doubledConnective_cons_blank hb.blanks, List.append_assoc]
        exact congrArg (b ++ ·) (replaceAll_of_eq_some covers_doubledConnective hfind)
      · intro row v hv
        rw [List.append_assoc]
        exact .cons (p := .joint d) trivial ⟨hb.blanks, fun h _ => hb.some h nofun, nofun⟩ hv
    · cases hr

theorem simulates_trailingConnective : Simulates trailingConnective trailingJoint where
  covers := covers_trailingConnective
  blanks := by
    intro b hb
    simp [trailingConnective, connectiveAhead?_blanks hb]
  mark := by
    intro n ps s c hs
    simp [trailingConnective, hs.connectiveAhead?_mark c]
  keeps := by
    intro n p ps b s hp hb hs hr
    unfold trailingConnective
    split
    · next c r hc =>
      obtain ⟨rfl, rfl⟩ := hp.eq_joint hb hc
      split
      · next hnil =>
        rcases hs.ahead with ⟨rfl, -⟩ | ⟨q, qs, t, rfl, hq, hcore, -⟩
        · cases hr
        · obtain ⟨x, u, hx, -⟩ := hq.exists_core_cons (n + (Piece.joint c).slots)
          simp [hcore, hx] at hnil
      · rfl
    · rfl
  turns := by
    intro after n p ps b s new hp hb hs hr
    unfold trailingJoint at hr
    split at hr
    · next c hq =>
      obtain rfl := List.head?_eq_none_iff.1 hq
      cases hr
      cases hs with | nil hs _ =>
      have hfind : trailingConnective (b ++ c.mark :: c.mark :: s) = some ⟨[], []⟩ :=
        trailingConnective_eq_some_iff.2 ⟨rfl, c, b, s, hb.blanks, hs, rfl⟩
      refine ⟨after, n, [], [], .nil blanks_nil fun _ => rfl, ?_, fun _ _ hv => hv⟩
      exact replaceAll_of_eq_some covers_trailingConnective hfind
    · cases hr

theorem simulates_closeBeforeCondition :
    Simulates closeBeforeCondition closingBeforeOperand where
  covers := covers_closeBeforeCondition
  blanks := none_of_blanks rfl closeBeforeCondition_cons_blank
  mark := by
    intro n ps s c _
    simp [closeBeforeCondition]
  keeps := by
    intro n p ps b s hp hb hs hr
    rw [Option.eq_none_iff_forall_ne_some]
    intro o ho
    obtain ⟨-, hcond, b', hb', heq⟩ := closeBeforeCondition_eq_some_iff.1 ho
    obtain ⟨rfl, rfl⟩ := hp.eq_closing hb heq
    have hskip := skipBlanks_append_of_solid hb' hcond.solid
    obtain ⟨w, qs, rfl⟩ := hs.eq_operand_cons (by rwa [hskip])
    cases hr
  turns := by
    intro after n p ps b s new hp hb hs hr
    unfold closingBeforeOperand at hr
    split at hr
    · next w hq =>
      obtain ⟨qs, rfl⟩ := List.head?_eq_some_iff.1 hq
      cases hr
      cases hs with | @cons _ _ _ _ b' t hw hb' ht =>
      obtain rfl := hb'.none rfl rfl
      have hfind : closeBeforeCondition (')' :: ((Piece.operand w).core n ++ t)) =
          some ⟨[')', ' ', Connective.and.mark, Connective.and.mark, ' '],
            (Piece.operand w).core n ++ t⟩ :=
        closeBeforeCondition_eq_some_iff.2
          ⟨rfl, IsOperand.startsCondition hw n t, [], blanks_nil, rfl⟩
      have hword := replaceAll_plain_append covers_closeBeforeCondition
        (fun x hx => IsOperand.isPlain hw (n := n) hx) t
      refine ⟨false, n + (Piece.operand w).slots,
        b ++ ([')', ' ', Connective.and.mark, Connective.and.mark, ' '] ++
          (Piece.operand w).core n), t, ht, ?_, ?_⟩
      · rw [replaceAll_blanks_append closeBeforeCondition_cons_blank hb.blanks]
        have hclose := replaceAll_of_eq_some covers_closeBeforeCondition hfind
        refine (congrArg (b ++ ·) (hclose.trans (congrArg _ hword))).trans ?_
        simp [Piece.core]
      · intro row v hv
        have hspace : Blanks [' '] := by simp
        have hcond : Spells true n (.operand w :: row) ([' '] ++ ((Piece.operand w).core n ++ v)) :=
          .cons hw ⟨hspace, by simp, by simp⟩ hv
        have hgap : Gap false (.joint .and) [' '] := ⟨hspace, by simp, by simp [Piece.isJoint]⟩
        have hjoint := Spells.cons (p := .joint .and) trivial hgap hcond
        simpa [Piece.core] using Spells.cons (p := .closing) trivial hb hjoint
    · cases hr

theorem Spells.dropLeadingConnective {n : Nat} {ps : List Piece} {s : List Char}
    (h : Spells false n ps s) :
    Spells false n (dropLeadingJoint ps) (dropLeadingConnective s) := by
  cases hc : connectiveAhead? s with
  | some cr =>
    obtain ⟨c, r⟩ := cr
    obtain ⟨qs, rfl, hr⟩ := h.eq_joint_cons hc
    simpa [Normal.dropLeadingConnective, hc, dropLeadingJoint] using hr.strip
  | none =>
    have hkeep : dropLeadingJoint ps = ps := by
      cases h with
      | nil => rfl
      | @cons _ _ p ps b t _ hb _ =>
        cases p with
        | joint c => simp [connectiveAhead?_append hb.blanks c t, Piece.core] at hc
        | _ => rfl
    simpa [Normal.dropLeadingConnective, hc, hkeep] using h

end RecordFilter.Normal
