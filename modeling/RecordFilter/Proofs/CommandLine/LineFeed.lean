import RecordFilter.CommandLine.Command
import RecordFilter.Proofs.Normal.Frame
import RecordFilter.Proofs.Normal.Passage
import RecordFilter.Proofs.Normal.Tidy

/-!
# Ends of lines

On its way from the output of one run to the input of another a filter gets a line feed behind it,
which is taken away again, and every carriage return in it becomes a line feed. In a filter that is
tidy outside its literals only a literal can hold a carriage return, and the last character is none
that is taken away. So what arrives has the same frame, and is its own normal form too.

## Main statements

* `text_shield_withLineFeeds`: a tidy filter is the same behind its slots with line feeds.
* `inputFilter_append_newline`: what arrives of a filter.
* `return_not_mem_normalizeChars`: normalizing writes no carriage return.
-/

namespace RecordFilter

open Text RecordFilter.Normal RecordFilter.CommandLine

variable {r s t : List Char} {x : Char}

/-! ## Line feeds -/

namespace CommandLine

theorem withLineFeeds_eq_self (h : '\r' ∉ s) : withLineFeeds s = s := by
  fun_induction withLineFeeds s with
  | case1 s ih => simp at h
  | case2 s hne ih => simp at h
  | case3 c s hne hne' ih =>
    rw [ih fun hmem => h (List.mem_cons_of_mem c hmem)]
  | case4 => rfl

theorem return_not_mem_withLineFeeds (s : List Char) : '\r' ∉ withLineFeeds s := by
  fun_induction withLineFeeds s with
  | case1 s ih | case2 s _ ih => simpa using ih
  | case3 c s hne hne' ih =>
    have hc : '\r' ≠ c := by
      rintro rfl
      exact hne' rfl
    simpa [hc] using ih
  | case4 => simp

/-- The other characters stay. -/
theorem mem_withLineFeeds (hfeed : x ≠ '\n') (hreturn : x ≠ '\r') :
    x ∈ withLineFeeds s ↔ x ∈ s := by
  fun_induction withLineFeeds s with
  | case1 s ih | case2 s _ ih => simpa [hfeed, hreturn] using ih
  | case3 c s hne hne' ih => simp [ih]
  | case4 => rfl

theorem withLineFeeds_cons (h : x ≠ '\r') (s : List Char) :
    withLineFeeds (x :: s) = x :: withLineFeeds s := by
  rw [withLineFeeds]
  · rintro t rfl
    exact absurd rfl h
  · rintro rfl
    exact absurd rfl h

/-- A character that belongs to no end of a line keeps the ends of lines on its two sides apart. -/
theorem withLineFeeds_append_cons (hfeed : x ≠ '\n') (hreturn : x ≠ '\r') (s t : List Char) :
    withLineFeeds (s ++ x :: t) = withLineFeeds s ++ x :: withLineFeeds t := by
  fun_induction withLineFeeds s with
  | case1 s ih => simpa [withLineFeeds] using ih
  | case2 s hne ih =>
    -- the character is no line feed that would belong to the carriage return in front of it
    have hjoin : ∀ u, s ++ x :: t = '\n' :: u → False := by
      intro u h
      cases s with
      | nil => exact hfeed (List.cons.inj h).1
      | cons c s => exact hne s (by rw [(List.cons.inj h).1])
    rw [List.cons_append, withLineFeeds, ih, List.cons_append]
    exact hjoin
  | case3 c s hne hne' ih =>
    have hc : c ≠ '\r' := by
      rintro rfl
      exact hne' rfl
    rw [List.cons_append, withLineFeeds_cons hc, ih, List.cons_append]
  | case4 => exact withLineFeeds_cons hreturn t

end CommandLine

/-! ## Literals with line feeds -/

namespace Normal

/-- The segment with line feeds in its literal. -/
def Segment.withLineFeeds : Segment → Segment
  | bare c => bare c
  | literal inside => literal (CommandLine.withLineFeeds inside)

theorem withLineFeeds_flatMap_text {segs : List Segment} (h : .bare '\r' ∉ segs) :
    withLineFeeds (segs.flatMap Segment.text) =
      (segs.map Segment.withLineFeeds).flatMap Segment.text := by
  induction segs with
  | nil => rfl
  | cons seg segs ih =>
    rw [List.mem_cons, not_or] at h
    rw [List.flatMap_cons, List.map_cons, List.flatMap_cons, ← ih h.2]
    cases seg with
    | bare c =>
      have hc : c ≠ '\r' := by
        rintro rfl
        exact h.1 rfl
      exact withLineFeeds_cons hc _
    | literal inside =>
      simp only [Segment.text, Segment.withLineFeeds, List.cons_append, List.append_assoc,
        List.nil_append]
      rw [withLineFeeds_cons (by decide),
        withLineFeeds_append_cons (by decide) (by decide)]

theorem Canonical.withLineFeeds {segs : List Segment} (h : Canonical segs) :
    Canonical (segs.map Segment.withLineFeeds) := by
  induction segs with
  | nil => trivial
  | cons seg segs ih =>
    cases seg with
    | bare c =>
      by_cases hc : c = '"'
      · simp only [Canonical, hc, if_true] at h
        obtain ⟨w, hw, rfl⟩ := h
        simp only [List.map_cons, Segment.withLineFeeds, Canonical, hc, if_true]
        exact ⟨w, hw, by simp [Segment.withLineFeeds]⟩
      · simp only [Canonical, hc, if_false] at h
        simpa [Segment.withLineFeeds, Canonical, hc] using ih h
    | literal inside =>
      have hquote : '"' ∉ CommandLine.withLineFeeds inside := by
        rw [mem_withLineFeeds (by decide) (by decide)]
        exact h.1
      exact ⟨hquote, ih h.2⟩

/-- Line feeds in place of the carriage returns in literals leave the frame as it is. -/
theorem frame_withLineFeeds (h : .bare '\r' ∉ segments r) :
    frame (withLineFeeds r) = frame r := by
  have hsegs : segments (withLineFeeds r) = (segments r).map Segment.withLineFeeds := by
    have htext := withLineFeeds_flatMap_text h
    rw [text_segments] at htext
    rw [htext, (canonical_segments r).withLineFeeds.segments_text]
  rw [frame, hsegs, List.map_map, frame]
  congr 1
  funext seg
  cases seg <;> rfl

/-! ## Tidy filters with line feeds -/

theorem mem_slotted_of_bare {segs : List Segment} (h : .bare x ∈ segs) (n : Nat) :
    x ∈ slotted n segs := by
  obtain ⟨segs', segs'', rfl⟩ := List.append_of_mem h
  rw [slotted_append]
  exact List.mem_append_right _ List.mem_cons_self

/-- A blank in a tidy text is a space. -/
theorem Tidy.eq_space (h : Tidy s) (hx : x ∈ s) (hblank : isBlank x = true) : x = ' ' := by
  obtain ⟨u, v, rfl⟩ := List.append_of_mem hx
  simpa using h.single_spaces u [x] v (by simp) (by simp [hblank]) (by simp)

/-- A character of a text stands on its own or in a literal. -/
theorem bare_or_mem_literals (hx : x ∈ s) :
    .bare x ∈ segments s ∨ ∃ lit ∈ literals s, x ∈ lit := by
  rw [← text_segments s] at hx
  obtain ⟨seg, hseg, hx⟩ := List.mem_flatMap.1 hx
  cases seg with
  | bare c =>
    obtain rfl : x = c := by simpa [Segment.text] using hx
    exact .inl hseg
  | literal inside => exact .inr ⟨_, List.mem_filterMap.2 ⟨_, hseg, rfl⟩, hx⟩

theorem mem_of_mem_literals {lit : List Char} (hlit : lit ∈ literals s) (hx : x ∈ lit) : x ∈ s := by
  obtain ⟨seg, hseg, htext⟩ := List.mem_filterMap.1 hlit
  rw [← text_segments s]
  refine List.mem_flatMap.2 ⟨seg, hseg, ?_⟩
  cases seg with
  | bare c => cases htext
  | literal inside =>
    obtain rfl : _ = lit := Option.some.inj htext
    exact hx

/-- In a filter that is tidy behind its slots, a blank outside the literals is a space. -/
theorem Tidy.eq_space_of_bare (h : Tidy (shield r).text) (hr : sentinel ∉ r)
    (hx : .bare x ∈ segments r) (hblank : isBlank x = true) : x = ' ' := by
  rw [shield, if_neg hr] at h
  exact h.eq_space (mem_slotted_of_bare hx 0) hblank

/-- If it holds a sentinel, all of its blanks are spaces. -/
theorem Tidy.eq_space_of_sentinel (h : Tidy (shield r).text) (hr : sentinel ∈ r) (hx : x ∈ r)
    (hblank : isBlank x = true) : x = ' ' := by
  rw [shield, if_pos hr] at h
  exact h.eq_space hx hblank

theorem isBlank_return : isBlank '\r' = true := by decide

theorem text_shield_withLineFeeds (h : Tidy (shield r).text) :
    (shield (withLineFeeds r)).text = (shield r).text := by
  by_cases hr : sentinel ∈ r
  · rw [withLineFeeds_eq_self]
    intro hreturn
    cases h.eq_space_of_sentinel hr hreturn isBlank_return
  · have hr' : sentinel ∉ withLineFeeds r := by
      rwa [mem_withLineFeeds (by decide) (by decide)]
    refine (text_shield_eq_iff hr' hr).2 (frame_withLineFeeds fun hreturn => ?_)
    cases h.eq_space_of_bare hr hreturn isBlank_return

/-- A filter that is its own normal form still is with line feeds. -/
theorem normalizeChars_withLineFeeds (h : Tidy (shield r).text) :
    normalizeChars (withLineFeeds r) = withLineFeeds r := by
  rw [normalizeChars_eq_self_iff, text_shield_withLineFeeds h]
  exact h

/-- The last character of such a filter is no blank. -/
theorem Tidy.isBlank_last (h : Tidy (shield (s ++ [x])).text) : isBlank x = false := by
  by_cases hr : sentinel ∈ s ++ [x]
  · rw [shield, if_pos hr] at h
    exact h.no_trailing_blank s x rfl
  · rw [shield, if_neg hr] at h
    rcases List.eq_nil_or_concat' (segments (s ++ [x])) with hnil | ⟨segs, seg, hsegs⟩
    · have htext := text_segments (s ++ [x])
      rw [hnil] at htext
      simp at htext
    · have htext := text_segments (s ++ [x])
      rw [hsegs, List.flatMap_append] at htext
      cases seg with
      | bare c =>
        have hlast : c = x := by simpa [Segment.text] using congrArg List.getLast? htext
        rw [hsegs, slotted_append] at h
        exact hlast ▸ h.no_trailing_blank _ c rfl
      | literal inside =>
        have hlast : '"' = x := by
          rw [List.flatMap_singleton, Segment.text, ← List.append_assoc] at htext
          exact (List.append_singleton_inj.1 htext).2
        rw [← hlast]
        decide

/-- Normalizing writes no carriage return. -/
theorem return_not_mem_normalizeChars (h : '\r' ∉ s) : '\r' ∉ normalizeChars s := by
  have htidy := tidy_normalizeChars s
  intro hreturn
  by_cases hs : sentinel ∈ s
  · have hs' := ((edits_normalizeChars s).mem_iff isPlain_sentinel).2 hs
    cases htidy.eq_space_of_sentinel hs' hreturn isBlank_return
  · rcases bare_or_mem_literals hreturn with hbare | ⟨lit, hlit, hmem⟩
    · cases htidy.eq_space_of_bare (sentinel_not_mem_normalizeChars hs) hbare isBlank_return
    · rw [literals_normalizeChars hs] at hlit
      exact h (mem_of_mem_literals hlit hmem)

end Normal

/-! ## Input -/

namespace CommandLine

theorem return_not_mem_inputFilter (text : String) : '\r' ∉ (inputFilter text).toList := by
  rw [inputFilter, String.toList_ofList, List.mem_reverse]
  intro h
  have hmem := List.mem_reverse.1 ((List.dropWhile_sublist _).subset h)
  exact return_not_mem_withLineFeeds _ hmem

/-- Of a tidy filter with a line feed behind it, the filter arrives, with line feeds in it. -/
theorem inputFilter_append_newline (h : Tidy (shield r).text) :
    inputFilter (String.ofList r ++ "\n") = String.ofList (withLineFeeds r) := by
  have hnewline : withLineFeeds ['\n'] = ['\n'] := rfl
  rw [inputFilter, String.toList_append, String.toList_ofList, String.ofList_inj]
  rcases List.eq_nil_or_concat' r with rfl | ⟨u, x, rfl⟩
  · rfl
  · have hx := h.isBlank_last
    have hfeed : x ≠ '\n' := by
      rintro rfl
      cases hx
    have hreturn : x ≠ '\r' := by
      rintro rfl
      cases hx
    have htext := withLineFeeds_append_cons hfeed hreturn u ['\n']
    have hfilter := withLineFeeds_append_cons hfeed hreturn u []
    rw [hnewline] at htext
    rw [withLineFeeds] at hfilter
    simp [htext, hfilter, hfeed]

end CommandLine

end RecordFilter
