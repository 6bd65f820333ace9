import RecordFilter.Proofs.Normal.Mirror

/-!
# A pass over texts that are alike

The first seven rules leave texts that are alike alike. Then the connectives are loosened, after
which the texts are alike even in a strict reading, and once every run of blanks is a single space
they are equal. So texts that are alike are equal after one pass, and the repair of brackets before
the first pass keeps them alike.

## Main statements

* `Alike.rulePass_eq`: one pass makes texts that are alike equal.
* `settled_text_eq_of_alike`: they are brought to the same text.
* `alike_settled`: the connectives of a text stay whole until the passes rest.
-/

namespace RecordFilter.Normal

open Text

/-! ## Runs of blanks -/

/-- What is left of a run of blanks. -/
def collapsed (b : List Char) : List Char := if b = [] then [] else [' ']

section
variable {free loose : Bool} {b b' : List Char}

theorem blanks_collapsed (b : List Char) : Blanks (collapsed b) := by
  unfold collapsed
  split <;> simp

theorem Gaps.collapsed (h : Gaps free b b') : Gaps free (collapsed b) (collapsed b') :=
  ⟨blanks_collapsed b, blanks_collapsed b',
    h.same.imp_right fun hsame => by simp [Normal.collapsed, hsame]⟩

theorem Gaps.collapsed_eq (h : Gaps false b b') : Normal.collapsed b = Normal.collapsed b' := by
  have hsame : b = [] ↔ b' = [] := by simpa using h.same
  simp only [Normal.collapsed, hsame]

theorem replaceAll_blankRun_gap (hb : Blanks b) {s : List Char} (hs : Solid s) :
    replaceAll blankRun (b ++ s) = collapsed b ++ replaceAll blankRun s := by
  cases b with
  | nil => rfl
  | cons x b => exact replaceAll_blankRun_cons_append hb hs

theorem replaceAll_blankRun_blanks (hb : Blanks b) : replaceAll blankRun b = collapsed b := by
  simpa using replaceAll_blankRun_gap hb solid_nil

theorem replaceAll_blankRun_token {w : Token} (hw : w.Proper loose) (hb : Blanks b)
    (s : List Char) : replaceAll blankRun (b ++ (w.text ++ s)) =
      collapsed b ++ (w.text ++ replaceAll blankRun s) := by
  have hsolid : Solid (w.text ++ s) := hw.skipBlanks_append blanks_nil s
  rw [replaceAll_blankRun_gap hb hsolid,
    replaceAll_blankRun_append (fun x hx => hw.isBlank hx) s]

theorem dropTrailingBlanks_token {w : Token} (hw : w.Proper loose) (b s : List Char) :
    dropTrailingBlanks (b ++ (w.text ++ s)) = b ++ (w.text ++ dropTrailingBlanks s) := by
  cases w with
  | char x => exact dropTrailingBlanks_append b hw.1 s
  | joint c => simpa [Token.text] using dropTrailingBlanks_append (b ++ [c.mark]) (isBlank_mark c) s

theorem balanceFrom_blanks_append (hb : Blanks b) (d : Nat) (s : List Char) :
    balanceFrom d (b ++ s) = b ++ balanceFrom d s := by
  refine balanceFrom_append (fun hopen => ?_) (fun hclose => ?_) d s
  · simpa using hb '(' hopen
  · simpa using hb ')' hclose

end

/-! ## A pass -/

namespace Alike

variable {loose after : Bool} {s t : List Char}

theorem dropLeadingConnective (h : Alike loose false s t) :
    Alike loose false (dropLeadingConnective s) (dropLeadingConnective t) := by
  cases hs : Normal.connectiveAhead? s with
  | none => simpa [Normal.dropLeadingConnective, hs, h.connectiveAhead?_eq_none hs] using h
  | some cr =>
    obtain ⟨c, r⟩ := cr
    obtain ⟨r', ht, hr⟩ := h.connectiveAhead? hs
    simpa [Normal.dropLeadingConnective, hs, ht] using hr.strip

/-- The first seven rules leave texts that are alike alike. -/
theorem clean (h : Alike loose false s t) : Alike loose false (clean s) (clean t) := by
  replace h := (mirrored_emptyGroup loose).alike h
  replace h := (mirrored_connectiveBeforeClose loose).alike h
  replace h := (mirrored_connectiveAfterOpen loose).alike h
  replace h := (mirrored_doubledConnective loose).alike h
  replace h := h.dropLeadingConnective
  replace h := (mirrored_trailingConnective loose).alike h
  exact (mirrored_closeBeforeCondition loose).alike h

theorem replaceAll_blankRun (h : Alike loose after s t) :
    Alike loose after (replaceAll blankRun s) (replaceAll blankRun t) := by
  induction h with
  | nil hb =>
    rw [replaceAll_blankRun_blanks hb.first, replaceAll_blankRun_blanks hb.second]
    exact nil hb.collapsed
  | cons hw hb _ ih =>
    rw [replaceAll_blankRun_token hw hb.first, replaceAll_blankRun_token hw hb.second]
    exact cons hw hb.collapsed ih

/-- In a strict reading the gaps are all that can differ, and they collapse to the same. -/
theorem replaceAll_blankRun_eq (h : Alike false after s t) (hafter : after = false) :
    Text.replaceAll blankRun s = Text.replaceAll blankRun t := by
  induction h with
  | nil hb =>
    rw [replaceAll_blankRun_blanks hb.first, replaceAll_blankRun_blanks hb.second]
    exact (hafter ▸ hb).collapsed_eq
  | @cons after w b b' s t hw hb _ ih =>
    -- a strict reading has no connectives, so no gap is free
    have hjoint : w.isJoint = false := by
      cases w with
      | char x => rfl
      | joint c => cases hw
    rw [hafter, hjoint] at hb
    rw [replaceAll_blankRun_token hw hb.first, replaceAll_blankRun_token hw hb.second, ih hjoint,
      hb.collapsed_eq]

theorem dropTrailingBlanks (h : Alike loose after s t) :
    Alike loose after (dropTrailingBlanks s) (dropTrailingBlanks t) := by
  induction h with
  | @nil after b b' hb =>
    have hnil : ∀ {b}, Blanks b → Text.dropTrailingBlanks b = [] :=
      fun hb => List.reverse_eq_nil_iff.2 (skipBlanks_eq_nil_iff.2 hb.reverse)
    rw [hnil hb.first, hnil hb.second]
    exact nil (.refl after blanks_nil)
  | cons hw hb _ ih =>
    rw [dropTrailingBlanks_token hw, dropTrailingBlanks_token hw]
    exact cons hw hb ih

theorem space (h : Alike loose false s t) : Alike loose false (space s) (space t) :=
  ((mirrored_looseConnective id).alike h).replaceAll_blankRun.strip.dropTrailingBlanks

/-- Setting the spaces right makes texts that are alike equal. -/
theorem space_eq (h : Alike loose false s t) : Normal.space s = Normal.space t := by
  have hstrict : Alike false false (replaceAll looseConnective s) (replaceAll looseConnective t) :=
    (mirrored_looseConnective (by simp)).alike h
  rw [Normal.space, hstrict.replaceAll_blankRun_eq rfl, Normal.space]

theorem rulePass (h : Alike loose false s t) : Alike loose false (rulePass s) (rulePass t) :=
  h.clean.space

/-- One pass makes texts that are alike equal. -/
theorem rulePass_eq (h : Alike loose false s t) : Normal.rulePass s = Normal.rulePass t :=
  h.clean.space_eq

/-! ## Brackets -/

theorem replicate_close (d : Nat) :
    Alike loose false (List.replicate d ')') (List.replicate d ')') := by
  induction d with
  | zero => exact nil (.refl false blanks_nil)
  | succ d ih => exact ih.keep isBlank_close fun _ => rfl

/-- Repairing brackets leaves texts that are alike alike. -/
theorem balanceFrom (d : Nat) (h : Alike loose after s t) :
    Alike loose after (balanceFrom d s) (balanceFrom d t) := by
  induction h generalizing d with
  | @nil after b b' hb =>
    have hblanks : ∀ {b}, Blanks b → Normal.balanceFrom d b = b ++ List.replicate d ')' :=
      fun hb => by simpa [Normal.balanceFrom] using balanceFrom_blanks_append hb d []
    rw [hblanks hb.first, hblanks hb.second]
    exact (replicate_close d).prepend hb
  | @cons after w b b' s t hw hb _ ih =>
    rw [balanceFrom_blanks_append hb.first, balanceFrom_blanks_append hb.second]
    cases w with
    | joint c =>
      have hmarks : ∀ s, Normal.balanceFrom d (c.mark :: c.mark :: s) =
          c.mark :: c.mark :: Normal.balanceFrom d s := by simp [Normal.balanceFrom]
      rw [Token.text, List.cons_append, List.cons_append, List.nil_append, hmarks]
      simpa [Token.text, hmarks] using cons hw hb (ih d)
    | char x =>
      have hgap : Gaps after b b' := hb.mono (by simp [Token.isJoint])
      by_cases hclose : x = ')'
      · subst hclose
        cases d with
        | zero => exact (ih 0).prepend hgap
        | succ d => exact char isBlank_close hw.2 hgap (ih d)
      · by_cases hopen : x = '('
        · subst hopen
          exact char isBlank_open hw.2 hgap (ih (d + 1))
        · simpa [Token.text, Normal.balanceFrom, hclose, hopen] using char hw.1 hw.2 hgap (ih d)

end Alike

/-! ## Where texts that are alike are brought -/

theorem RestsAfter.iterate_eq {n k : Nat} {s : List Char} (h : RestsAfter n s) (hk : n ≤ k) :
    rulePass^[k] s = rulePass^[n] s := by
  obtain ⟨j, rfl⟩ := Nat.exists_eq_add_of_le' hk
  rw [Function.iterate_add_apply, Function.iterate_fixed h.rest]

/-- Filters that are alike behind their slots are brought to the same text. -/
theorem settled_text_eq_of_alike {loose : Bool} {r s : List Char}
    (h : Alike loose false (shield r).text (shield s).text) :
    (settled r).text = (settled s).text := by
  have hpass : rulePass (prepared r) = rulePass (prepared s) := (h.balanceFrom 0).rulePass_eq
  obtain ⟨n, -, hn, hr⟩ := exists_settled_eq r
  obtain ⟨m, -, hm, hs⟩ := exists_settled_eq s
  rw [hr, hs]
  -- from the first pass on, the texts are the same
  have hsame : rulePass^[n + m + 1] (prepared r) = rulePass^[n + m + 1] (prepared s) := by
    rw [Function.iterate_succ_apply, Function.iterate_succ_apply, hpass]
  rwa [hn.iterate_eq (by omega), hm.iterate_eq (by omega)] at hsame

/-- Filters that are alike behind their slots and have the same literals have the same normal form.
-/
theorem normalizeChars_eq_of_alike {loose : Bool} {r s : List Char}
    (hlits : (shield r).literals = (shield s).literals)
    (h : Alike loose false (shield r).text (shield s).text) :
    normalizeChars r = normalizeChars s := by
  rw [normalizeChars, hlits, settled_text_eq_of_alike h, normalizeChars]

/-- If the marks of a filter make up connectives, so do those of the text it is brought to. -/
theorem alike_settled {loose : Bool} {raw : List Char}
    (h : Alike loose false (shield raw).text (shield raw).text) :
    Alike loose false (settled raw).text (settled raw).text :=
  settled_induction (motive := fun s => Alike loose false s s) raw (h.balanceFrom 0)
    fun _ h => h.rulePass

end RecordFilter.Normal
