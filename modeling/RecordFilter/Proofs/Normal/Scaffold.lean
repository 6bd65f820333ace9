import RecordFilter.Proofs.Normal.AlikePass
import RecordFilter.Proofs.Normal.Literal

/-!
# Filters without operands

A text of brackets, connectives and blanks, in any order and number, has no operand that any of them
could belong to. Its marks stand in pairs, and the passes keep them so. Where the passes rest,
nothing but another opening bracket can stand behind an opening one, so a balanced text has no
bracket; and a text of connectives does not rest. Hence nothing is left.

## Main statements

* `Alike.close_not_mem`: what can stand behind an opening bracket where the passes rest.
* `eq_nil_of_quiet`: a balanced text without operands at which the passes rest is empty.
* `normalize_scaffold`: a filter without operands is normalized to nothing.
-/

namespace RecordFilter

namespace Normal

open Text

/-! ## Texts without operands -/

/-- The parts of a filter that do not belong to an operand. -/
inductive Scaffold
  | opening
  | closing
  | joint (c : Connective)
  | blank (x : Char) (hx : isBlank x = true)

def Scaffold.text : Scaffold → List Char
  | opening => ['(']
  | closing => [')']
  | joint c => c.symbol.toList
  | blank x _ => [x]

theorem Scaffold.structural_text (p : Scaffold) : Structural p.text := by
  cases p with
  | opening => simp [text]
  | closing => simp [text]
  | joint c => simp [text, Connective.toList_symbol]
  | blank x hx => simp [text, hx]

theorem structural_scaffold (ps : List Scaffold) : Structural (ps.flatMap Scaffold.text) := by
  induction ps with
  | nil => exact structural_nil
  | cons p ps ih => simp [p.structural_text, ih]

/-- The marks of a text without operands make up connectives. -/
theorem alike_scaffold (ps : List Scaffold) (after : Bool) :
    Alike true after (ps.flatMap Scaffold.text) (ps.flatMap Scaffold.text) := by
  induction ps generalizing after with
  | nil => exact .nil (.refl after blanks_nil)
  | cons p ps ih =>
    rw [List.flatMap_cons]
    cases p with
    | opening => exact (ih false).keep isBlank_open fun _ => rfl
    | closing => exact (ih false).keep isBlank_close fun _ => rfl
    | joint c =>
      rw [Scaffold.text, Connective.toList_symbol]
      exact .connective (b := []) c (.refl _ blanks_nil) (ih true)
    | blank x hx => exact (ih false).prepend (b := [x]) (.refl after (by simp [hx]))

/-- A text without operands holds no literal and no slot. -/
theorem text_shield_of_structural {s : List Char} (h : Structural s) : (shield s).text = s := by
  have hsentinel : sentinel ∉ s := by
    intro hmem
    have hplain := h sentinel hmem
    rw [isPlain_sentinel] at hplain
    cases hplain
  have hbare := segmentsFrom_none_append (quote_not_mem_of_structural h) []
  rw [List.append_nil] at hbare
  rw [shield, if_neg hsentinel, segments, hbare]
  simpa [segmentsFrom] using slotted_map_bare 0 s

theorem Edits.structural {s t : List Char} (h : Edits s t) (hs : Structural s) : Structural t := by
  have hnone : t.filter isPlain = [] := by
    rw [h.filter_isPlain, List.filter_eq_nil_iff]
    simpa [Structural] using hs
  simpa [Structural, List.filter_eq_nil_iff] using hnone

theorem eq_bracket_of_isPlain {x : Char} (hplain : isPlain x = false) (hblank : isBlank x = false)
    (hmark : isMark x = false) : x = '(' ∨ x = ')' := by
  simp only [isPlain, hblank, hmark, Bool.false_or, Bool.or_false, Bool.not_eq_false',
    Bool.or_eq_true, beq_iff_eq] at hplain
  exact hplain

/-! ## Where the passes rest -/

/-- Behind an opening bracket, a closing one would make an empty group and a connective would have
nothing to connect, so neither comes. -/
theorem Alike.close_not_mem {after : Bool} {s t u : List Char} (h : Alike true after s t)
    (hs : Structural s) (hq : Quiet (u ++ '(' :: s)) : ')' ∉ s := by
  have hblanks : ∀ {b}, Blanks b → ')' ∉ b := fun hb hmem => by simpa using hb ')' hmem
  induction h generalizing u with
  | nil hb => exact hblanks hb.first
  | @cons after w b b' s t hw hb _ ih =>
    cases w with
    | joint c => exact absurd rfl (hq.ne_connectiveAfterOpen hb.first u c s)
    | char x =>
      rw [structural_append, Token.text, List.singleton_append, structural_cons] at hs
      obtain ⟨-, hplain, hs⟩ := hs
      rcases eq_bracket_of_isPlain hplain hw.1 (hw.2 rfl) with rfl | rfl
      · have hrest := ih (u := u ++ '(' :: b) hs (by simpa [Token.text] using hq)
        simp [Token.text, hblanks hb.first, hrest]
      · exact absurd rfl (hq.ne_emptyGroup hb.first u s)

/-- A balanced text without operands at which the passes rest is empty. -/
theorem eq_nil_of_quiet {s t : List Char} (h : Alike true false s t) (hs : Structural s)
    (hb : Balanced s) (hspaced : Spaced s) (hq : Quiet s) : s = [] := by
  have hskip : skipBlanks s = s := hspaced.first
  obtain ⟨hbefore, htotal⟩ := balanced_iff.1 hb
  rcases h.ahead with ⟨hnil, -⟩ | ⟨w, r, t', hw, hr, -, hrest⟩
  · exact hskip.symm.trans hnil
  rw [hskip] at hr
  subst hr
  cases w with
  | joint c => exact absurd rfl (hq.ne_leadingConnective blanks_nil c r)
  | char x =>
    rw [Token.text, List.singleton_append, structural_cons] at hs
    rcases eq_bracket_of_isPlain hs.1 hw.1 (hw.2 rfl) with rfl | rfl
    · have hclose : ')' ∉ r := hrest.close_not_mem (u := []) hs.2 hq
      simp [Token.text, List.count_eq_zero.2 hclose] at htotal
    · have hfirst := hbefore [')'] ⟨r, rfl⟩
      simp at hfirst

end Normal

open RecordFilter.Normal

/-- A filter without operands is normalized to nothing. -/
theorem normalize_scaffold (ps : List Scaffold) :
    normalize (String.ofList (ps.flatMap Scaffold.text)) = "" := by
  have hstruct := structural_scaffold ps
  have htext := text_shield_of_structural hstruct
  have halike : Alike true false (shield (ps.flatMap Scaffold.text)).text
      (shield (ps.flatMap Scaffold.text)).text := by
    rw [htext]
    exact alike_scaffold ps false
  have hnil : (settled (ps.flatMap Scaffold.text)).text = [] :=
    eq_nil_of_quiet (alike_settled halike)
      ((edits_settled _).structural (htext.symm ▸ hstruct)) (balanced_settled _)
      (spaced_settled _) (quiet_settled _)
  have hempty : normalizeChars (ps.flatMap Scaffold.text) = [] := by
    simp [normalizeChars, hnil, restore]
  rw [normalize, String.toList_ofList, hempty, String.ofList_nil]

end RecordFilter
