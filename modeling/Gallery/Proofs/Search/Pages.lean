import Gallery.Search.Results
import Mathlib.Data.List.Basic

/-!
# Pages tile the hits

The two positions between which a page is cut are computed in words of the machine.
None of the steps fails, whatever page is asked for, and a start that passed the largest
word would lie past the hits anyway, so every page is the one that unbounded numbers
give.  Pages of one size, put one after the other, are the hits.
-/

namespace Gallery

variable {α : Type} {list : List α} {page perPage : ℕ}

theorem slice?_eq_some {start stop : ℕ} (hstart : start ≤ stop) (hstop : stop ≤ list.length) :
    slice? list start stop = some ((list.drop start).take (stop - start)) := by
  rw [slice?, if_pos ⟨hstart, hstop⟩, List.drop_take]

/-- A page cut in words is the page cut in unbounded numbers, as what is cut down to the
largest word lies past the end of the list. -/
theorem pageOf?_eq (hlength : list.length < wordBound) (page perPage : ℕ) :
    pageOf? list page perPage =
      some (if page = 0 ∨ perPage = 0 then []
        else (list.drop ((page - 1) * perPage)).take perPage) := by
  have hwords : list.length ≤ largestWord := Nat.le_sub_one_of_lt hlength
  unfold pageOf?
  by_cases hnone : page = 0 ∨ perPage = 0
  · rw [if_pos hnone, if_pos hnone]
  · have hbefore : difference? page 1 = some (page - 1) :=
      if_pos (Nat.one_le_iff_ne_zero.2 fun hpage => hnone (Or.inl hpage))
    rw [if_neg hnone, if_neg hnone, hbefore, Option.bind_eq_bind, Option.bind_some]
    generalize (page - 1) * perPage = start
    dsimp only
    by_cases hpast : list.length ≤ saturated start
    · have hend : list.length ≤ start := Nat.le_trans hpast (Nat.min_le_left _ _)
      rw [if_pos hpast, List.drop_eq_nil_of_le hend, List.take_nil]
    · have hexact : saturated start = start := by
        unfold saturated at hpast ⊢
        omega
      rw [if_neg hpast, hexact]
      rw [hexact] at hpast
      rw [slice?_eq_some (by unfold saturated; omega) (Nat.min_le_right _ _), Option.some_inj]
      apply List.take_eq_take_iff.2
      rw [List.length_drop]
      unfold saturated
      omega

theorem flatMap_chunks (list : List α) (size count : ℕ) :
    (List.range count).flatMap (fun before => (list.drop (before * size)).take size) =
      list.take (count * size) := by
  induction count with
  | zero => simp
  | succ count ih =>
      rw [List.range_succ, List.flatMap_append, ih, List.flatMap_singleton, Nat.succ_mul,
        List.take_add]

namespace SearchResults

variable {results : SearchResults}

theorem page_eq (hlength : results.hits.length < wordBound) (hpage : page ≠ 0) :
    results.page page perPage = (results.hits.drop ((page - 1) * perPage)).take perPage := by
  rw [SearchResults.page, page?, pageOf?_eq hlength, Option.getD_some]
  split
  · rename_i hnone
    rw [hnone.resolve_left hpage, List.take_zero]
  · rfl

theorem page_eq_nil_iff (hlength : results.hits.length < wordBound) (hpage : page ≠ 0)
    (hperPage : perPage ≠ 0) :
    results.page page perPage = [] ↔ results.hits.length ≤ (page - 1) * perPage := by
  rw [page_eq hlength hpage, List.take_eq_nil_iff, List.drop_eq_nil_iff]
  exact or_iff_right hperPage

/-- The first pages of one size are as many of the first hits as they have places. -/
theorem flatMap_page (hlength : results.hits.length < wordBound) (perPage count : ℕ) :
    (List.range count).flatMap (fun before => results.page (before + 1) perPage) =
      results.hits.take (count * perPage) := by
  rw [← flatMap_chunks]
  congr 1
  funext before
  exact page_eq hlength (Nat.succ_ne_zero before)

theorem pages_tile (results : SearchResults) (hlength : results.hits.length < wordBound) :
    (∀ page perPage : ℕ, results.page? page perPage =
        some (if page = 0 ∨ perPage = 0 then []
          else (results.hits.drop ((page - 1) * perPage)).take perPage)) ∧
      ∀ perPage : ℕ, 1 ≤ perPage →
        (∀ count : ℕ, results.hits.length ≤ count * perPage →
          (List.range count).flatMap (fun before => results.page (before + 1) perPage) =
            results.hits) ∧
          ∀ page : ℕ, 1 ≤ page → results.page page perPage = [] →
            ∀ later : ℕ, page ≤ later → results.page later perPage = [] := by
  refine ⟨pageOf?_eq hlength, fun perPage hperPage => ⟨?_, ?_⟩⟩
  · intro count hcount
    rw [flatMap_page hlength, List.take_of_length_le hcount]
  · intro page hpage hempty later hlater
    have hsize : perPage ≠ 0 := Nat.one_le_iff_ne_zero.1 hperPage
    have hend := (page_eq_nil_iff hlength (Nat.one_le_iff_ne_zero.1 hpage) hsize).1 hempty
    rw [page_eq_nil_iff hlength (Nat.one_le_iff_ne_zero.1 (Nat.le_trans hpage hlater)) hsize]
    exact Nat.le_trans hend
      (Nat.mul_le_mul_right perPage (Nat.sub_le_sub_right hlater 1))

/-- Three hits on pages of two: the second page is ragged, and one whose start passes the
largest word is empty. -/
theorem pages_tile_of_three_hits :
    let results : SearchResults :=
      ⟨[⟨1, "a.png", ""⟩, ⟨2, "b.png", ""⟩, ⟨3, "c.png", ""⟩], false, .fallback⟩
    results.page? 2 2 = some [⟨3, "c.png", ""⟩] ∧
      results.page? largestWord 2 = some [] ∧
      results.page 1 2 ++ results.page 2 2 = results.hits ∧
      results.page 3 2 = [] ∧ results.page largestWord 2 = [] := by
  intro results
  have hlength : results.hits.length < wordBound := by decide
  obtain ⟨hpage, htile⟩ := pages_tile results hlength
  obtain ⟨hall, hempty⟩ := htile 2 (by decide)
  have hthird : results.page 3 2 = [] := by decide
  exact ⟨hpage 2 2, (hpage largestWord 2).trans (by decide), hall 2 (by decide), hthird,
    hempty 3 (by decide) hthird largestWord (by decide)⟩

end SearchResults

end Gallery
