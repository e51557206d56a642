import Gallery.Item.CategoryTags
import Gallery.Proofs.Text.Lowering

/-!
# The names that an item shows

The tags of an item are read in three ways: name by name in the joined text, as one set,
and category by category.  A text without words adds none to the joined text, whether it
is left out or not, so the words of the joined text are those of the seven texts one after
the other.  Lower-casing does not look across the blank between two words, so it may be
done before the words are read or behind.
-/

namespace Gallery

open Text

namespace CategoryTags

theorem flatMap_words_filter (texts : List String) :
    (texts.filter (! ·.isEmpty)).flatMap words = texts.flatMap words := by
  induction texts with
  | nil => rfl
  | cons text texts ih =>
      by_cases hempty : text = ""
      · subst hempty
        rw [List.filter_cons_of_neg (by decide), ih, List.flatMap_cons, words_empty,
          List.nil_append]
      · have hkept : (text :: texts).filter (! ·.isEmpty) = text :: texts.filter (! ·.isEmpty) := by
          simp [hempty]
        rw [hkept, List.flatMap_cons, List.flatMap_cons, ih]

/-- The words of the joined text are those of the seven texts in category order. -/
theorem words_joined (tags : CategoryTags) :
    words tags.joined = Category.all.flatMap fun category => words (tags.get category) := by
  rw [joined, words_intercalate_space, flatMap_words_filter, texts, List.flatMap_map]

theorem words_lower_joined (tags : CategoryTags) :
    words (lower tags.joined) =
      Category.all.flatMap fun category => words (lower (tags.get category)) := by
  rw [words_lower, words_joined, List.map_flatMap]
  simp only [words_lower]

theorem mem_words_lower_joined_iff {tags : CategoryTags} {term : String} :
    term ∈ words (lower tags.joined) ↔ ∃ category, term ∈ words (lower (tags.get category)) := by
  simp [words_lower_joined, Category.mem_all]

/-! ## Sets of names -/

theorem tagSet_eq (tags : CategoryTags) : tags.tagSet = distinct (words tags.joined) := by
  rw [tagSet, texts, List.flatMap_map, words_joined]

theorem mem_tagSet_iff {tags : CategoryTags} {name : String} :
    name ∈ tags.tagSet ↔ ∃ category, name ∈ words (tags.get category) := by
  simp [tagSet, texts, Category.mem_all]

theorem nodup_tagSet (tags : CategoryTags) : tags.tagSet.Nodup :=
  nodup_distinct _

theorem tagSet_of_isEmpty_joined {tags : CategoryTags} (hempty : tags.joined.isEmpty = true) :
    tags.tagSet = [] := by
  rw [tagSet_eq, String.isEmpty_iff.1 hempty, words_empty]
  rfl

/-- All views of the tags show the same names. -/
theorem views_agree (tags : CategoryTags) :
    words tags.joined = Category.all.flatMap (fun category => words (tags.get category)) ∧
      tags.tagSet.Nodup ∧
      tags.tagSet.toFinset = (words tags.joined).toFinset ∧
      tags.tagSet.toFinset =
        Category.all.toFinset.biUnion (fun category => (tags.categorySet category).toFinset) ∧
      words (lower tags.joined) = (words tags.joined).map lower ∧
      words (lower tags.joined) =
        Category.all.flatMap (fun category => words (lower (tags.get category))) := by
  have hwords : tags.tagSet.toFinset = (words tags.joined).toFinset := by
    ext name
    rw [List.mem_toFinset, List.mem_toFinset, tagSet_eq, mem_distinct]
  have hunion : tags.tagSet.toFinset =
      Category.all.toFinset.biUnion fun category => (tags.categorySet category).toFinset := by
    ext name
    simp [mem_tagSet_iff, categorySet, Category.mem_all]
  exact ⟨tags.words_joined, tags.nodup_tagSet, hwords, hunion, words_lower tags.joined,
    tags.words_lower_joined⟩

end CategoryTags

end Gallery
