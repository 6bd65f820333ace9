import Mathlib.Data.List.Basic
import RecordFilter.Console.Line
import RecordFilter.Proofs.Text.Blank
import RecordFilter.Proofs.Text.Replace

/-!
# A line on the console

The console shows a line as it is, but for the pictures that it puts in place of their codes and for
blanks at the end of a line that is too long. Neither codes nor pictures hold a blank, so the blanks
of a text are the same before and after, and a line that came out as it went in has met with no
picture and lost no blank.

## Main statements

* `filter_isBlank_withPictures`: the blanks of a text stay where they are.
* `withPictures_eq_self`: a text in which no picture is named.
* `cropBlanks_eq_self_iff`: the lines that lose nothing at their end.
* `exists_line_unbroken`: the lines that come out as they went in.
-/

namespace RecordFilter.Console

open Text

/-! ## Codes and pictures -/

/-- No blank is in a word. -/
theorem isBlank_of_mem_wordsFrom {word s w : List Char} {c : Char}
    (hword : ∀ x ∈ word, isBlank x = false) (hw : w ∈ wordsFrom word s) (hc : c ∈ w) :
    isBlank c = false := by
  induction s generalizing word with
  | nil =>
    cases word with
    | nil => cases hw
    | cons x word =>
      obtain rfl : w = (x :: word).reverse := by simpa [wordsFrom] using hw
      exact hword c (List.mem_reverse.1 hc)
  | cons x s ih =>
    unfold wordsFrom at hw
    split at hw
    · split at hw
      · exact ih (by simp) hw
      · rcases List.mem_cons.1 hw with rfl | hw
        · exact hword c (List.mem_reverse.1 hc)
        · exact ih (by simp) hw
    · next hx => exact ih (List.forall_mem_cons.2 ⟨by simpa using hx, hword⟩) hw

theorem mem_of_mem_pairUp {name picture : String} {ws : List (List Char)}
    (h : (name, picture) ∈ pairUp ws) : picture.toList ∈ ws := by
  induction ws using pairUp.induct with
  | case1 first second rest ih =>
    rw [pairUp, List.mem_cons] at h
    rcases h with hpair | h
    · simp [(Prod.mk.inj hpair).2]
    · simp [ih h]
  | case2 ws hshort =>
    simp [pairUp] at h

/-- No blank is in a picture. -/
theorem isBlank_of_picture? {code picture : List Char} {c : Char}
    (h : picture? code = some picture) (hc : c ∈ picture) : isBlank c = false := by
  rw [picture?, Option.map_eq_some_iff] at h
  obtain ⟨shown, hshown, rfl⟩ := h
  rcases List.mem_append.1 hc with hc | hc
  · obtain ⟨before, after, hmem, -⟩ := List.lookup_eq_some_iff.1 hshown
    have hpair : (String.ofList (lower (splitVariant code).1), shown) ∈ shortcodes := by
      simp [hmem]
    have hword := mem_of_mem_pairUp hpair
    obtain ⟨line, -, hword⟩ := List.mem_flatMap.1 hword
    exact isBlank_of_mem_wordsFrom (by simp) hword hc
  · unfold splitVariant at hc
    split at hc
    · obtain rfl := List.mem_singleton.1 hc
      decide
    · split at hc
      · obtain rfl := List.mem_singleton.1 hc
        decide
      · cases hc

/-- The word is a code: there is neither a colon nor a blank in it. -/
def IsCode (code : List Char) : Prop := ∀ c ∈ code, c ≠ ':' ∧ isBlank c = false

theorem shortcode_of_ne {c : Char} (h : c ≠ ':') (s : List Char) : shortcode (c :: s) = none := by
  unfold shortcode
  split
  · next heq => exact absurd (List.cons.inj heq).1 h
  · rfl

/-- The walk meets a code between two colons, and writes its picture if there is one. -/
theorem exists_code_of_shortcode {c : Char} {s : List Char} {o : Occurrence}
    (h : shortcode (c :: s) = some o) : c = ':' ∧ ∃ code, IsCode code ∧ s = code ++ ':' :: o.rest ∧
      o.new = (picture? code).getD (':' :: code ++ [':']) := by
  by_cases hc : c = ':'
  · subst hc
    refine ⟨rfl, s.takeWhile fun c => c != ':' && !isBlank c, ?_, ?_⟩
    · intro c hc
      simpa using List.all_eq_true.1 List.all_takeWhile c hc
    · simp only [shortcode] at h
      split at h
      · next rest hrest =>
        obtain rfl := Option.some.inj h
        refine ⟨?_, rfl⟩
        rw [← hrest]
        exact (List.prefix_iff_eq_append.1 (List.takeWhile_prefix _)).symm
      · cases h
  · rw [shortcode_of_ne hc] at h
    cases h

theorem consumes_shortcode : Consumes shortcode := by
  intro c s o h
  obtain ⟨-, code, -, rfl, -⟩ := exists_code_of_shortcode h
  exact (List.suffix_cons ':' o.rest).trans (List.suffix_append code _)

/-- The blanks of a text stay where they are. -/
theorem filter_isBlank_withPictures (s : List Char) :
    (withPictures s).filter isBlank = s.filter isBlank := by
  refine replaceAll_induction consumes_shortcode
    (motive := fun s t => t.filter isBlank = s.filter isBlank) rfl (fun c s _ ih => ?_)
    (fun c s o ho ih => ?_) s
  · rw [List.filter_cons, List.filter_cons, ih]
  · obtain ⟨rfl, code, hcode, rfl, hnew⟩ := exists_code_of_shortcode ho
    have hblank : isBlank ':' = false := by decide
    have hnone : code.filter isBlank = [] := by
      simpa using fun c hc => (hcode c hc).2
    have hnew : o.new.filter isBlank = [] := by
      rw [hnew]
      cases hpicture : picture? code with
      | none => simp [hnone, hblank]
      | some picture => simpa using fun c hc => isBlank_of_picture? hpicture hc
    simp [hnew, hnone, hblank, ih]

theorem mem_withPictures_of_isBlank {c : Char} (hc : isBlank c = true) (s : List Char) :
    c ∈ withPictures s ↔ c ∈ s := by
  have hmem := congrArg (c ∈ ·) (filter_isBlank_withPictures s)
  simpa [List.mem_filter, hc] using hmem

/-- Somewhere in the text a picture is named. -/
def NamesPicture (s : List Char) : Prop :=
  ∃ before code after, s = before ++ ':' :: (code ++ ':' :: after) ∧ IsCode code ∧
    picture? code ≠ none

theorem NamesPicture.append {s : List Char} (h : NamesPicture s) (front : List Char) :
    NamesPicture (front ++ s) := by
  obtain ⟨before, code, after, rfl, hcode, hpicture⟩ := h
  exact ⟨front ++ before, code, after, by simp, hcode, hpicture⟩

/-- A text in which no picture is named stays as it is. -/
theorem withPictures_eq_self {s : List Char} (h : ¬ NamesPicture s) : withPictures s = s := by
  revert h
  refine replaceAll_induction consumes_shortcode
    (motive := fun s t => ¬ NamesPicture s → t = s) (fun _ => rfl) (fun c s _ ih h => ?_)
    (fun c s o ho ih h => ?_) s
  · rw [ih fun hs => h (hs.append [c])]
  · obtain ⟨rfl, code, hcode, rfl, hnew⟩ := exists_code_of_shortcode ho
    have hpicture : picture? code = none := by
      by_contra hpicture
      exact h ⟨[], code, o.rest, rfl, hcode, hpicture⟩
    rw [hnew, hpicture, ih fun hs => h (by simpa using hs.append (':' :: code ++ [':']))]
    simp

/-- A colon with a blank behind it opens no code. -/
theorem withPictures_title {title : List Char} (h : ':' ∉ title) (s : List Char) :
    withPictures (title ++ ':' :: ' ' :: s) = title ++ ':' :: ' ' :: withPictures s := by
  induction title with
  | nil =>
    have hcolon : shortcode (':' :: ' ' :: s) = none := rfl
    rw [List.nil_append, withPictures, replaceAll_cons_none hcolon,
      replaceAll_cons_none (shortcode_of_ne (by decide) s)]
    rfl
  | cons c title ih =>
    obtain ⟨hc, htitle⟩ : ':' ≠ c ∧ ':' ∉ title := by simpa using h
    rw [List.cons_append, withPictures, replaceAll_cons_none (shortcode_of_ne hc.symm _),
      ← withPictures, ih htitle]
    rfl

/-! ## The end of a line -/

/-- Of the blanks at the end as many stay as there is room for. -/
theorem cropBlanks_append {t b : List Char} (h : dropTrailingBlanks (t ++ b) = t) (width : Nat) :
    cropBlanks width (t ++ b) = t ++ b.take (b.length - (t.length + b.length - width)) := by
  have hlength : (t ++ b).length - min ((t ++ b).length - t.length) ((t ++ b).length - width) =
      t.length + (b.length - (t.length + b.length - width)) := by
    rw [List.length_append]
    omega
  simp only [cropBlanks, h, hlength]
  exact List.take_length_add_append _

/-- A line that comes out shorter has lost blanks at its end. -/
theorem exists_blanks_cropBlanks (width : Nat) (s : List Char) :
    ∃ b, Blanks b ∧ s = cropBlanks width s ++ b := by
  obtain ⟨b, hb, hs⟩ := exists_blanks_dropTrailingBlanks s
  have hcrop := cropBlanks_append (by rw [← hs]) width
  rw [← hs] at hcrop
  refine ⟨b.drop (b.length - ((dropTrailingBlanks s).length + b.length - width)),
    fun x hx => hb x (List.mem_of_mem_drop hx), ?_⟩
  rw [hcrop, List.append_assoc, List.take_append_drop, ← hs]

theorem dropTrailingBlanks_eq_self_iff {s : List Char} :
    dropTrailingBlanks s = s ↔ s.getLast?.any isBlank = false := by
  rw [dropTrailingBlanks, List.reverse_eq_iff, ← List.head?_reverse]
  cases s.reverse with
  | nil => simp
  | cons c t => exact solid_cons.trans (by simp)

/-- A line loses nothing if it is short enough or does not end in a blank. -/
theorem cropBlanks_eq_self_iff {width : Nat} {s : List Char} :
    cropBlanks width s = s ↔ s.length ≤ width ∨ s.getLast?.any isBlank = false := by
  rw [← dropTrailingBlanks_eq_self_iff]
  constructor
  · intro h
    obtain ⟨b, -, hs⟩ := exists_blanks_dropTrailingBlanks s
    have hcrop := cropBlanks_append (by rw [← hs]) width
    rw [← hs, h] at hcrop
    have hkept : b.length ≤ b.length - ((dropTrailingBlanks s).length + b.length - width) := by
      have htake := congrArg List.length (List.append_cancel_left (hs.symm.trans hcrop))
      rw [List.length_take] at htake
      omega
    have hlength : s.length = (dropTrailingBlanks s).length + b.length := by
      rw [← List.length_append, ← hs]
    by_cases hfits : s.length ≤ width
    · exact .inl hfits
    · right
      have hnone : b = [] := List.length_eq_zero_iff.1 (by omega)
      rw [hnone, List.append_nil] at hs
      exact hs.symm
  · rintro (hfits | hend)
    · exact cropBlanks_of_le hfits
    · simp [cropBlanks, hend]

/-! ## A single line -/

/-- The character is a control, from the first or the second half of the code. -/
def IsControl (c : Char) : Prop := c.toNat < 32 ∨ 127 ≤ c.toNat ∧ c.toNat < 160

instance : DecidablePred IsControl := fun _ => inferInstanceAs (Decidable (_ ∨ _))

/-- There is no control in the text. -/
def NoControl (s : List Char) : Prop := ∀ c ∈ s, ¬ IsControl c

instance : DecidablePred NoControl := fun s => List.decidableBAll (fun c => ¬ IsControl c) s

theorem noControl_append {s t : List Char} : NoControl (s ++ t) ↔ NoControl s ∧ NoControl t :=
  List.forall_mem_append

theorem splitLines_of_not_mem {s : List Char} (h : '\n' ∉ s) : splitLines s = [s] := by
  induction s with
  | nil => rfl
  | cons c s ih =>
    obtain ⟨hc, hs⟩ : '\n' ≠ c ∧ '\n' ∉ s := by simpa using h
    rw [splitLines, if_neg hc.symm, ih hs]

theorem expandTabs_of_not_mem {s : List Char} (h : '\t' ∉ s) (column : Nat) :
    expandTabs column s = s := by
  induction s generalizing column with
  | nil => rfl
  | cons c s ih =>
    obtain ⟨hc, hs⟩ : '\t' ≠ c ∧ '\t' ∉ s := by simpa using h
    rw [expandTabs, if_neg hc.symm, ih hs]

theorem not_isCursorControl {c : Char} (h : ¬ IsControl c) : isCursorControl c = false := by
  have hc : 32 ≤ c.toNat := by
    unfold IsControl at h
    omega
  simp only [isCursorControl, List.contains_eq_mem, List.mem_cons, List.not_mem_nil, or_false,
    decide_eq_false_iff_not]
  omega

theorem dropControls_eq_self {s : List Char} (h : NoControl s) : dropControls s = s := by
  rw [dropControls, List.filter_eq_self]
  intro c hc
  rw [not_isCursorControl (h c hc)]
  rfl

/-- A text without line feeds and tabs is one line. -/
theorem unbroken_of_not_mem {s : List Char} (hfeed : '\n' ∉ s) (htab : '\t' ∉ s) (width : Nat) :
    unbroken width s = cropBlanks width (dropControls s) ++ ['\n'] := by
  have hfeed : '\n' ∉ dropControls s := fun h => hfeed (List.mem_of_mem_filter h)
  have htab : '\t' ∉ dropControls s := fun h => htab (List.mem_of_mem_filter h)
  simp [unbroken, splitLines_of_not_mem hfeed, expandTabs_of_not_mem htab, joinLines]

/-- The console puts nothing in place of a part of the text, and drops none. -/
def Plain (s : List Char) : Prop := dropControls (withPictures s) = s

instance : DecidablePred Plain := fun _ => inferInstanceAs (Decidable (_ = _))

/-- There are cells across the console, and nothing is dropped at the end of the line. -/
def Fits (width : Nat) (s : List Char) : Prop :=
  0 < width ∧ (s.length ≤ width ∨ s.getLast?.any isBlank = false)

instance (width : Nat) : DecidablePred (Fits width) := fun _ => inferInstanceAs (Decidable (_ ∧ _))

/-- Where no picture is named, there is nothing to replace or to drop. -/
theorem plain_of_not_namesPicture {s : List Char} (hcontrol : NoControl s)
    (h : ¬ NamesPicture s) : Plain s := by
  rw [Plain, withPictures_eq_self h, dropControls_eq_self hcontrol]

/-- A text without controls that has only got longer by blanks has not changed. -/
theorem eq_nil_of_append_blanks {s b : List Char} (hcontrol : NoControl s)
    (hb : Blanks b) (h : dropControls (withPictures s) = s ++ b) : b = [] := by
  have hblanks : (dropControls (withPictures s)).filter isBlank = s.filter isBlank := by
    rw [dropControls, List.filter_comm, filter_isBlank_withPictures, List.filter_comm,
      ← dropControls, dropControls_eq_self hcontrol]
  rw [h, List.filter_append, List.filter_eq_self.2 hb] at hblanks
  simpa using hblanks

/-- There is still no control in it that is a blank. -/
theorem not_mem_withPictures_title {title s : List Char} {c : Char}
    (hcontrol : NoControl (title ++ s)) (hc : IsControl c) (hblank : isBlank c = true) :
    c ∉ title ++ ':' :: ' ' :: withPictures s := by
  intro hmem
  rw [List.mem_append, List.mem_cons, List.mem_cons, mem_withPictures_of_isBlank hblank] at hmem
  rcases hmem with hmem | rfl | rfl | hmem
  · exact hcontrol c (List.mem_append_left s hmem) hc
  · exact absurd hc (by decide)
  · exact absurd hc (by decide)
  · exact hcontrol c (List.mem_append_right title hmem) hc

/-- What a line with a title in front comes out as. -/
theorem unbroken_title {title s : List Char} (htitle : ':' ∉ title)
    (hcontrol : NoControl (title ++ s)) (width : Nat) :
    unbroken width (withPictures (title ++ ':' :: ' ' :: s)) =
      cropBlanks width (title ++ ':' :: ' ' :: dropControls (withPictures s)) ++ ['\n'] := by
  have hfeed : '\n' ∉ title ++ ':' :: ' ' :: withPictures s :=
    not_mem_withPictures_title hcontrol (by decide) (by decide)
  have htab : '\t' ∉ title ++ ':' :: ' ' :: withPictures s :=
    not_mem_withPictures_title hcontrol (by decide) (by decide)
  have hdrop : dropControls (title ++ ':' :: ' ' :: withPictures s) =
      title ++ ':' :: ' ' :: dropControls (withPictures s) := by
    have htitle := dropControls_eq_self (noControl_append.1 hcontrol).1
    rw [dropControls] at htitle ⊢
    rw [List.filter_append, htitle]
    rfl
  rw [withPictures_title htitle, unbroken_of_not_mem hfeed htab, hdrop]

/-- A text without controls comes out as one line, and that is the text itself exactly if it is
plain and fits. -/
theorem exists_line_unbroken {title s : List Char} (htitle : ':' ∉ title)
    (hcontrol : NoControl (title ++ s)) {width : Nat} (hwidth : 0 < width) :
    ∃ line, unbroken width (withPictures (title ++ ':' :: ' ' :: s)) = line ++ ['\n'] ∧
      '\n' ∉ line ∧
      (line = title ++ ':' :: ' ' :: s ↔ Plain s ∧ Fits width (title ++ ':' :: ' ' :: s)) := by
  obtain ⟨b, hb, hline⟩ := exists_blanks_cropBlanks width
    (title ++ ':' :: ' ' :: dropControls (withPictures s))
  refine ⟨_, unbroken_title htitle hcontrol width, fun hfeed => ?_, fun h => ?_, ?_⟩
  · have hnone : '\n' ∉ title ++ ':' :: ' ' :: withPictures s :=
      not_mem_withPictures_title hcontrol (by decide) (by decide)
    have hmem := List.mem_append_left b hfeed
    rw [← hline, List.mem_append, List.mem_cons, List.mem_cons] at hmem
    refine hnone (List.mem_append.2 (hmem.imp_right fun hrest => ?_))
    rw [List.mem_cons, List.mem_cons]
    exact hrest.imp_right (Or.imp_right List.mem_of_mem_filter)
  · rw [h] at hline
    have hrest : dropControls (withPictures s) = s ++ b := by simpa using hline
    have hnone := eq_nil_of_append_blanks (noControl_append.1 hcontrol).2 hb hrest
    have hplain : Plain s := by rw [Plain, hrest, hnone, List.append_nil]
    rw [hplain] at h
    exact ⟨hplain, hwidth, cropBlanks_eq_self_iff.1 h⟩
  · rintro ⟨hplain, -, hfits⟩
    rw [hplain, cropBlanks_eq_self_iff.2 hfits]

end RecordFilter.Console
