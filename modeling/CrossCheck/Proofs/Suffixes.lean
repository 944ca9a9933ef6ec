import CrossCheck.Proofs.NormalExtensions
import CrossCheck.Proofs.Recasing
import CrossCheck.Proofs.Selection

/-! # Files that carry a configured suffix

A configured extension may be any text, with dots inside it as well, but the extension of a file is
what follows the last dot of its name. So a file that carries a configured extension without a dot
as a suffix is an image (`Carries.isImageName`), and an extension with a dot makes no file one
(`isImageName_filter_iff`). In a directory the extensions without dots select all files that carry
them, and the others might as well not be there (`find_of_carried_suffix`); the file that carries
one of these is not selected (`not_mem_find_of_dotted_suffix`). -/

namespace CrossCheck.Images

open CrossCheck.Path CrossCheck.Extract Text Text.Utf8

/-- **A name that carries a suffix:** something that does not start with a dot, then a dot, then the
suffix, but for the case of letters. -/
def Carries (suffix : String) (name : OsString) : Prop :=
  ∃ stem ext, name.bytes = stem ++ dot :: encode ext ∧ stem ≠ [] ∧ (∀ b ∈ stem.head?, b ≠ dot) ∧
    lower ext = lower suffix.toList

theorem dot_mem_lower_iff {s : List Char} : '.' ∈ lower s ↔ '.' ∈ s := by
  have hdot : ∀ c : Char, c.toLower = '.' ↔ c = '.' := fun c => toLower_eq_iff (by decide)
  simp [lower, hdot]

theorem Carries.isImageName {extensions : List String} {e : String} {name : OsString}
    (h : Carries e name) (he : e ∈ extensions) (hdot : '.' ∉ e.toList) :
    IsImageName extensions name := by
  obtain ⟨stem, ext, hname, hstem, hvisible, hsame⟩ := h
  have hext : '.' ∉ ext := by rwa [← dot_mem_lower_iff, hsame, dot_mem_lower_iff]
  refine ⟨?_, stem, ext, hname, hstem, hext, e, he, hsame.symm⟩
  obtain ⟨c, stem, rfl⟩ := List.exists_cons_of_ne_nil hstem
  rw [hname, List.cons_append, List.cons_prefix_cons]
  exact fun hhidden => hvisible c rfl hhidden.1.symm

/-- An extension with a dot makes no name that of an image. -/
theorem isImageName_filter_iff {extensions : List String} {e : String} {name : OsString}
    (hdot : '.' ∈ e.toList) :
    IsImageName (extensions.filter (· ≠ e)) name ↔ IsImageName extensions name := by
  constructor
  · rintro ⟨hvisible, stem, ext, hname, hstem, hext, wanted, hwanted, hsame⟩
    exact ⟨hvisible, stem, ext, hname, hstem, hext, wanted, List.mem_of_mem_filter hwanted, hsame⟩
  · rintro ⟨hvisible, stem, ext, hname, hstem, hext, wanted, hwanted, hsame⟩
    refine ⟨hvisible, stem, ext, hname, hstem, hext, wanted, ?_, hsame⟩
    have hne : wanted ≠ e := by
      rintro rfl
      rw [← dot_mem_lower_iff, hsame, dot_mem_lower_iff] at hdot
      exact hext hdot
    exact List.mem_filter.mpr ⟨hwanted, decide_eq_true hne⟩

theorem find_filter (look : OsString → Place) (path : OsString) (extensions : List String)
    {e : String} (hdot : '.' ∈ e.toList) :
    find look path (extensions.filter (· ≠ e)) = find look path extensions := by
  have himage : isImage (extensions.filter (· ≠ e)) = isImage extensions := by
    funext entry
    rw [Bool.eq_iff_iff, isImage_iff, isImage_iff, isImageName_filter_iff hdot]
  unfold find ofEntries
  rw [himage]

/-- **Configured suffixes and the files that carry them.** Of the extensions given, one that
something is left of selects every regular file in a directory that carries what is left, if there
is no dot in it. If there is one, it selects no file: without it the same ones are found. -/
theorem find_of_carried_suffix (look : OsString → Place) (path : OsString) (entries : List Entry)
    (h : look path = .directory entries) (s : Settings) (es : List String) :
    let extensions := (s.withExtensions es).extensions
    ∃ paths, find look path extensions = .ok paths ∧
      ∀ given ∈ es, ∀ e, normalExtension given = e → e ≠ "" → e ∈ extensions ∧
        ('.' ∉ e.toList → ∀ name, ⟨name, true⟩ ∈ entries → Carries e name →
          join path name ∈ paths) ∧
        ('.' ∈ e.toList → find look path (extensions.filter (· ≠ e)) = .ok paths) := by
  intro extensions
  refine ⟨_, find_of_directory h extensions, fun given hgiven e he hne => ?_⟩
  have hmem : e ∈ extensions := mem_normalExtensions.mpr ⟨⟨given, hgiven, he⟩, hne⟩
  refine ⟨hmem, fun hdot name hname hcarries => ?_, fun hdot => ?_⟩
  · rw [ofEntries_eq]
    refine List.mem_map_of_mem (mem_imageNames.mpr ⟨hname, ?_⟩)
    exact hcarries.isImageName hmem hdot
  · rw [find_filter look path extensions hdot, find_of_directory h]

/-- Two suffixes, the first with white space and dots before it, and a file for each. -/
theorem find_of_carried_suffix_of_two :
    let look := fun _ : OsString => Place.directory [⟨"disk.tar.gz", true⟩, ⟨"disk.1.e01", true⟩]
    let extensions := (({} : Settings).withExtensions ["\u3000..E01\t", "tar.gz"]).extensions
    ∃ paths, find look "case" extensions = .ok paths ∧ .ofText "case/disk.1.e01" ∈ paths ∧
      find look "case" (extensions.filter (· ≠ "tar.gz")) = .ok paths := by
  intro look extensions
  obtain ⟨paths, hpaths, hgiven⟩ := find_of_carried_suffix look "case" _ rfl {}
    ["\u3000..E01\t", "tar.gz"]
  have hcarries : Carries "E01" "disk.1.e01" :=
    ⟨encode "disk.1".toList, "e01".toList, by decide +kernel, by decide +kernel,
      by decide +kernel, by decide⟩
  obtain ⟨-, hselects, -⟩ := hgiven "\u3000..E01\t" (by simp) "E01" (by decide +kernel) (by decide)
  obtain ⟨-, -, hnothing⟩ := hgiven "tar.gz" (by simp) "tar.gz" (by decide +kernel) (by decide)
  refine ⟨paths, hpaths, ?_, hnothing (by decide)⟩
  have hjoin : join "case" "disk.1.e01" = "case/disk.1.e01" := by decide +kernel
  rw [← hjoin]
  exact hselects (by decide) _ (by simp) hcarries

/-- A file that carries a configured suffix with a dot in it is not found. -/
theorem not_mem_find_of_dotted_suffix :
    ¬ ∀ (look : OsString → Place) (path : OsString) (entries : List Entry),
      look path = .directory entries → ∀ (s : Settings) (es : List String), ∀ given ∈ es, ∀ e,
        normalExtension given = e → e ≠ "" → ∀ name : OsString, slash ∉ name.bytes →
          ⟨name, true⟩ ∈ entries → Carries e name →
            ∃ paths, find look path (s.withExtensions es).extensions = .ok paths ∧
              join path name ∈ paths := by
  intro h
  have hcarries : Carries "tar.gz" "disk.tar.gz" :=
    ⟨encode "disk".toList, "tar.gz".toList, by decide +kernel, by decide +kernel,
      by decide +kernel, by decide⟩
  have hkept : normalExtension "tar.gz" = "tar.gz" := by decide +kernel
  obtain ⟨paths, hpaths, hmem⟩ := h (fun _ => .directory [⟨"disk.tar.gz", true⟩]) "case" _ rfl {}
    ["tar.gz"] "tar.gz" (by simp) "tar.gz" hkept (by decide) "disk.tar.gz" (by decide +kernel)
    (by simp) hcarries
  have hnone : find (fun _ => .directory [⟨"disk.tar.gz", true⟩]) "case"
      (({} : Settings).withExtensions ["tar.gz"]).extensions = .ok [] := by decide +kernel
  rw [hnone] at hpaths
  rw [← Except.ok.inj hpaths] at hmem
  cases hmem

end CrossCheck.Images
