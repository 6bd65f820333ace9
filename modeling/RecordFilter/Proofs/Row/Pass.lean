import RecordFilter.Proofs.Row.Rule

/-!
# A pass over a row

The last two rules and the trimming set the blanks of a spelling right and leave its row alone. A
pass over a text that spells a row therefore leaves a text that spells the tidied row, and where the
passes rest the text is that of the row as a builder would write it.

## Main statements

* `Spells.rulePass`: a whole pass.
* `Spells.rests`, `Spells.eq_shielded`: the row and the text at which the passes rest.
* `balanceFrom_shielded`: repairing the brackets of a row and of its text.
-/

namespace RecordFilter.Normal

open Text

/-! ## Blanks -/

theorem Piece.Proper.isBlank_core {p : Piece} (hp : p.Proper) {n : Nat} {x : Char}
    (hx : x ∈ p.core n) : isBlank x = false := by
  cases p with
  | operand w => exact isBlank_of_isPlain (IsOperand.isPlain hp hx)
  | joint c =>
    obtain rfl : x = c.mark := by simpa [Piece.core] using hx
    exact isBlank_mark c
  | opening =>
    obtain rfl : x = '(' := by simpa [Piece.core] using hx
    exact isBlank_open
  | closing =>
    obtain rfl : x = ')' := by simpa [Piece.core] using hx
    exact isBlank_close

namespace Spells

variable {after : Bool} {n : Nat} {ps : List Piece} {s : List Char}

/-! ## Spacing -/

theorem replaceAll_blankRun (h : Spells after n ps s) :
    Spells after n ps (replaceAll blankRun s) := by
  induction h with
  | @nil after n b hb hnone =>
    cases b with
    | nil => exact .nil hb hnone
    | cons x b =>
      have hrun := replaceAll_blankRun_cons_append hb solid_nil
      rw [List.append_nil] at hrun
      rw [hrun]
      exact .nil (by simp) fun h => absurd (hnone h) (by simp)
  | @cons after n p ps b t hp hb ht ih =>
    have hcore : replaceAll blankRun (p.core n ++ t) = p.core n ++ replaceAll blankRun t :=
      replaceAll_blankRun_append (fun x hx => hp.isBlank_core hx) t
    cases b with
    | nil =>
      rw [List.nil_append, hcore]
      exact .cons (b := []) hp hb ih
    | cons x b =>
      have hsolid : Solid (p.core n ++ t) := hp.skipBlanks_core blanks_nil n t
      rw [replaceAll_blankRun_cons_append hb.blanks hsolid, hcore]
      refine .cons (b := [' ']) hp ⟨by simp, fun _ _ => by simp, fun hafter hp => ?_⟩ ih
      exact absurd (hb.none hafter hp) (by simp)

theorem dropTrailingBlanks (h : Spells after n ps s) :
    Spells after n ps (dropTrailingBlanks s) := by
  induction h with
  | @nil after n b hb hnone =>
    have hnil : Text.dropTrailingBlanks b = [] :=
      List.reverse_eq_nil_iff.2 (skipBlanks_eq_nil_iff.2 hb.reverse)
    rw [hnil]
    exact .nil blanks_nil fun _ => rfl
  | @cons after n p ps b t hp hb ht ih =>
    have hdrop : Text.dropTrailingBlanks (b ++ (p.core n ++ t)) =
        b ++ (p.core n ++ Text.dropTrailingBlanks t) := by
      rcases List.eq_nil_or_concat (p.core n) with hnil | ⟨u, x, hcore⟩
      · obtain ⟨y, v, hcons, -⟩ := hp.exists_core_cons n
        simp [hnil] at hcons
      · have hx : isBlank x = false := hp.isBlank_core (n := n) (by simp [hcore])
        simpa [hcore] using dropTrailingBlanks_append (b ++ u) hx t
    rw [hdrop]
    exact .cons hp hb ih

theorem trim (h : Spells false n ps s) : Spells false n ps (trim s) := h.strip.dropTrailingBlanks

/-- Loosening the connectives writes the row as a builder would. -/
theorem replaceAll_looseConnective (h : Spells false n ps s) :
    replaceAll looseConnective s = shielded n ps := by
  induction ps generalizing n s with
  | nil =>
    cases h with | nil _ hnone =>
    rw [hnone rfl]
    rfl
  | cons p ps ih =>
    cases h with | @cons _ _ _ _ b t hp hb ht =>
    have hbracket : ∀ x, x = '(' ∨ x = ')' → looseConnective (x :: t) = none := by
      rintro x (rfl | rfl) <;> simp [looseConnective, connectiveAhead?, Connective.read?]
    cases p with
    | operand w =>
      obtain rfl := hb.none rfl rfl
      rw [shielded_operand, ← ih ht]
      exact replaceAll_plain_append covers_looseConnective (fun x hx => IsOperand.isPlain hp hx) t
    | joint c =>
      have hfind : looseConnective (b ++ c.mark :: c.mark :: t) =
          some ⟨[' ', c.mark, c.mark, ' '], skipBlanks t⟩ := by
        simp [looseConnective, connectiveAhead?_append hb.blanks, Connective.toList_spaced]
      rw [shielded_joint, ← ih (n := n) ht.strip]
      exact replaceAll_of_eq_some covers_looseConnective hfind
    | opening =>
      obtain rfl := hb.none rfl rfl
      rw [shielded_opening, ← ih (n := n) ht]
      exact replaceAll_cons_none (hbracket _ (.inl rfl))
    | closing =>
      obtain rfl := hb.none rfl rfl
      rw [shielded_closing, ← ih (n := n) ht]
      exact replaceAll_cons_none (hbracket _ (.inr rfl))

/-- A pass over a spelling of a row leaves a spelling of the tidied row. -/
theorem rulePass (h : Spells false n ps s) : Spells false n (tidy ps) (rulePass s) := by
  replace h := simulates_emptyGroup.spells h
  replace h := simulates_connectiveBeforeClose.spells h
  replace h := simulates_connectiveAfterOpen.spells h
  replace h := simulates_doubledConnective.spells h
  replace h := h.dropLeadingConnective
  replace h := simulates_trailingConnective.spells h
  replace h := simulates_closeBeforeCondition.spells h
  have hloose := spells_shielded h.proper n
  rw [← h.replaceAll_looseConnective] at hloose
  exact hloose.1.replaceAll_blankRun.trim

/-- At rest, the text is that of the row as a builder would write it. -/
theorem eq_shielded (h : Spells false n ps s) (hrest : Normal.rulePass s = s) :
    s = shielded n ps := by
  obtain ⟨hquiet, hspace⟩ := quiet_of_rulePass_eq hrest
  have hspaced : Spaced s := hspace ▸ spaced_space s
  rw [← h.replaceAll_looseConnective]
  refine (replaceAll_looseConnective_eq_self hspaced hquiet [] s rfl ?_).symm
  exact fun c v => hquiet.ne_leadingConnective blanks_nil c v

end Spells

/-! ## Rows at rest -/

/-- May the piece stand before the next one, or at the end, where no rule applies? -/
def Piece.precedes : Piece → Option Piece → Bool
  | joint _, none => false
  | joint _, some (joint _) => false
  | joint _, some closing => false
  | opening, some (joint _) => false
  | opening, some closing => false
  | closing, some (operand _) => false
  | _, _ => true

/-- No rule applies to two neighbours of the row or at its end. -/
def Rests : List Piece → Prop
  | [] => True
  | p :: ps => p.precedes ps.head? = true ∧ Rests ps

theorem Spells.rests_of_append {after : Bool} {n : Nat} {ps : List Piece} {u s : List Char}
    (h : Spells after n ps s) (hq : Quiet (u ++ s)) : Rests ps := by
  induction h generalizing u with
  | nil => trivial
  | @cons after n p ps b s hp hb h ih =>
    refine ⟨?_, ih (u := u ++ (b ++ p.core n)) (by simpa using hq)⟩
    cases h with
    | nil ht _ =>
      cases p with
      | joint c => exact absurd (by simp [Piece.core]) (hq.ne_trailingConnective ht (u ++ b) c)
      | _ => rfl
    | @cons _ _ q _ b' t hq' hb' _ =>
      cases p with
      | operand w => rfl
      | joint c =>
        cases q with
        | joint d =>
          exact absurd (by simp [Piece.core])
            (hq.ne_doubledConnective hb'.blanks (u ++ b) c d t)
        | closing =>
          exact absurd (by simp [Piece.core])
            (hq.ne_connectiveBeforeClose hb'.blanks (u ++ b) c t)
        | _ => rfl
      | opening =>
        cases q with
        | joint c =>
          exact absurd (by simp [Piece.core])
            (hq.ne_connectiveAfterOpen hb'.blanks (u ++ b) c t)
        | closing =>
          exact absurd (by simp [Piece.core]) (hq.ne_emptyGroup hb'.blanks (u ++ b) t)
        | _ => rfl
      | closing =>
        cases q with
        | operand w =>
          have hcond := IsOperand.startsCondition hq' (n + Piece.closing.slots) t
          exact absurd (by simp [Piece.core])
            (hq.ne_closeBeforeCondition hb'.blanks (u ++ b) hcond)
        | _ => rfl

/-- The first seven rules leave the spelling of a row as it is only if the row is at rest. -/
theorem Spells.rests {after : Bool} {n : Nat} {ps : List Piece} {s : List Char}
    (h : Spells after n ps s) (hq : Quiet s) : Rests ps := h.rests_of_append (u := []) hq

theorem Spells.head?_ne_joint {after : Bool} {n : Nat} {ps : List Piece} {s : List Char}
    (h : Spells after n ps s) (hq : Quiet s) (c : Connective) : ps.head? ≠ some (.joint c) := by
  intro hhead
  obtain ⟨qs, rfl⟩ := List.head?_eq_some_iff.1 hhead
  cases h with | @cons _ _ _ _ b t _ hb _ =>
  exact hq.ne_leadingConnective hb.blanks c t rfl

/-! ## Brackets -/

/-- Repair the brackets of a row inside `depth` open ones. -/
def balanceRow : Nat → List Piece → List Piece
  | d, [] => List.replicate d .closing
  | 0, .closing :: ps => balanceRow 0 ps
  | d + 1, .closing :: ps => .closing :: balanceRow d ps
  | d, .opening :: ps => .opening :: balanceRow (d + 1) ps
  | d, .operand w :: ps => .operand w :: balanceRow d ps
  | d, .joint c :: ps => .joint c :: balanceRow d ps

theorem not_mem_core {w : List Char} (h : IsOperand w) {n : Nat} {x : Char}
    (hx : isPlain x = false) : x ∉ (Piece.operand w).core n := by
  intro hmem
  rw [h.isPlain hmem] at hx
  cases hx

/-- Repairing the text of a row repairs the row. -/
theorem balanceFrom_shielded {ps : List Piece} (h : ∀ p ∈ ps, p.Proper) (d n : Nat) :
    balanceFrom d (shielded n ps) = shielded n (balanceRow d ps) := by
  induction ps generalizing d n with
  | nil =>
    induction d with
    | zero => rfl
    | succ d ih => exact congrArg (')' :: ·) ih
  | cons p ps ih =>
    have htail := ih fun q hq => h q (by simp [hq])
    cases p with
    | operand w =>
      have hw : IsOperand w := h (.operand w) (by simp)
      rw [balanceRow, shielded_operand, shielded_operand, ← htail,
        balanceFrom_append (not_mem_core hw isPlain_open) (not_mem_core hw isPlain_close)]
    | joint c =>
      rw [balanceRow, shielded_joint, shielded_joint, ← htail]
      exact balanceFrom_append (u := [' ', c.mark, c.mark, ' '])
        (by simp [(mark_ne_open c).symm]) (by simp [(mark_ne_close c).symm]) d _
    | opening =>
      rw [balanceRow, shielded_opening, shielded_opening, ← htail]
      rfl
    | closing =>
      cases d with
      | zero =>
        rw [balanceRow, shielded_closing, ← htail]
        rfl
      | succ d =>
        rw [balanceRow, shielded_closing, shielded_closing, ← htail]
        rfl

theorem proper_balanceRow {ps : List Piece} (h : ∀ p ∈ ps, p.Proper) (d : Nat) :
    ∀ p ∈ balanceRow d ps, p.Proper := by
  fun_induction balanceRow d ps with
  | case1 d =>
    intro p hp
    rw [List.eq_of_mem_replicate hp]
    trivial
  | case2 ps ih => exact ih fun p hp => h p (by simp [hp])
  | case3 d ps ih | case4 d ps ih =>
    exact List.forall_mem_cons.2 ⟨trivial, ih fun p hp => h p (by simp [hp])⟩
  | case5 d w ps ih | case6 d w ps ih =>
    exact List.forall_mem_cons.2 ⟨h _ (by simp), ih fun p hp => h p (by simp [hp])⟩

end RecordFilter.Normal
