import CrossCheck.Images
import CrossCheck.Proofs.OsStrings
import Mathlib.Data.List.Sort
import Mathlib.Data.List.TakeWhile

/-! # The images among the entries of a directory

Which entries are images is said by their names alone, once the directory has told which of them are
files (`IsImageName`, `isImage_iff`). Their names come in strictly increasing order
(`pairwise_imageNames`), which is the order of their bytes. A list in that order is determined by
its members, so that the order in which the directory lists its entries does not matter
(`imageNames_perm`). -/

namespace CrossCheck

/-! ### Extensions -/

namespace Path

theorem afterLast_append_cons {α : Type} {p : α → Bool} {c : α} (hc : p c = true) (stem : List α)
    {ext : List α} (hext : ∀ d ∈ ext, p d = false) : afterLast p (stem ++ c :: ext) = ext := by
  have hrev : (stem ++ c :: ext).reverse = ext.reverse ++ c :: stem.reverse := by simp
  rw [afterLast, hrev, List.takeWhile_append_of_pos (by simpa using hext),
    List.takeWhile_cons_of_neg (by simp [hc]), List.append_nil, List.reverse_reverse]

theorem dropWhile_reverse_append_dot (stem : List UInt8) {ext : List UInt8} (hext : dot ∉ ext) :
    (stem ++ dot :: ext).reverse.dropWhile (· ≠ dot) = dot :: stem.reverse := by
  have hrev : (stem ++ dot :: ext).reverse = ext.reverse ++ dot :: stem.reverse := by simp
  have hne : ∀ b ∈ ext.reverse, decide (b ≠ dot) = true := by
    intro b hb
    exact decide_eq_true fun heq => hext (heq ▸ List.mem_reverse.mp hb)
  rw [hrev, List.dropWhile_append_of_pos hne, List.dropWhile_cons_of_neg (by simp)]

theorem extension?_append {stem ext : List UInt8} (hstem : stem ≠ []) (hext : dot ∉ ext) :
    extension? (stem ++ dot :: ext) = some ext := by
  obtain ⟨c, cs, hc⟩ := List.exists_cons_of_ne_nil (List.reverse_ne_nil_iff.mpr hstem)
  rw [extension?, dropWhile_reverse_append_dot stem hext, hc]
  refine congrArg some (afterLast_append_cons (by simp) stem fun d hd => ?_)
  exact decide_eq_false fun heq => hext (heq ▸ hd)

/-- **The extension of a name** is what follows its last dot, and something stands before that dot.
-/
theorem extension?_eq_some_iff {name ext : List UInt8} :
    extension? name = some ext ↔ ∃ stem, name = stem ++ dot :: ext ∧ stem ≠ [] ∧ dot ∉ ext := by
  constructor
  · intro h
    by_cases hdot : dot ∈ name
    · obtain ⟨tser, mets, hname, hext⟩ := List.eq_append_cons_of_mem (List.mem_reverse.mpr hdot)
      obtain rfl : name = mets.reverse ++ dot :: tser.reverse := by
        simpa using congrArg List.reverse hname
      have hext : dot ∉ tser.reverse := by simpa using hext
      rcases mets with _ | ⟨c, cs⟩
      · rw [extension?, dropWhile_reverse_append_dot _ hext] at h
        cases h
      · have hstem : (c :: cs).reverse ≠ [] := by simp
        rw [extension?_append hstem hext] at h
        exact ⟨_, Option.some.inj h ▸ rfl, hstem, Option.some.inj h ▸ hext⟩
    · have hnone : name.reverse.dropWhile (· ≠ dot) = [] := by
        rw [List.dropWhile_eq_nil_iff]
        intro b hb
        exact decide_eq_true fun heq => hdot (heq ▸ List.mem_reverse.mp hb)
      rw [extension?, hnone] at h
      cases h
  · rintro ⟨stem, rfl, hstem, hext⟩
    exact extension?_append hstem hext

/-! ### Names in a directory -/

theorem isAbsolute_eq_false {name : OsString} (h : slash ∉ name.bytes) :
    isAbsolute name = false := by
  refine decide_eq_false fun hhead => h ?_
  exact List.mem_of_mem_head? hhead

theorem exists_join_eq (base : OsString) :
    ∃ before : List UInt8, ∀ name, isAbsolute name = false →
      join base name = ⟨before ++ name.bytes⟩ := by
  by_cases hempty : base.bytes.isEmpty = true
  · exact ⟨[], fun name hname => by simp [join, hname, hempty]⟩
  by_cases hslash : base.bytes.getLast? = some slash
  · exact ⟨base.bytes, fun name hname => by simp [join, hname, hempty, hslash]⟩
  · exact ⟨base.bytes ++ [slash], fun name hname => by simp [join, hname, hempty, hslash]⟩

theorem join_inj {base x y : OsString} (hx : isAbsolute x = false) (hy : isAbsolute y = false) :
    join base x = join base y ↔ x = y := by
  obtain ⟨before, hbefore⟩ := exists_join_eq base
  rw [hbefore x hx, hbefore y hy]
  cases x
  cases y
  simp

/-- What stands in a subdirectory does not have the path of a name in the directory. -/
theorem join_join_ne_join {base sub inner name : OsString} (hsub : sub.bytes ≠ [])
    (hflat : slash ∉ sub.bytes) (hinner : isAbsolute inner = false) (hname : slash ∉ name.bytes) :
    join (join base sub) inner ≠ join base name := by
  obtain ⟨before, hbefore⟩ := exists_join_eq base
  have hempty : (before ++ sub.bytes).isEmpty = false := by simp [hsub]
  have hlast : (before ++ sub.bytes).getLast? ≠ some slash := by
    rw [List.getLast?_append_of_ne_nil _ hsub]
    exact fun hmem => hflat (List.mem_of_getLast? hmem)
  have hjoin : join ⟨before ++ sub.bytes⟩ inner =
      ⟨before ++ (sub.bytes ++ slash :: inner.bytes)⟩ := by
    rw [join, hinner, hempty, Bool.or_self, if_neg Bool.false_ne_true, if_neg hlast,
      List.append_assoc]
  rw [hbefore sub (isAbsolute_eq_false hflat), hbefore name (isAbsolute_eq_false hname), hjoin]
  intro heq
  have hbytes : sub.bytes ++ slash :: inner.bytes = name.bytes := by
    simpa using congrArg OsString.bytes heq
  rw [← hbytes] at hname
  simp at hname

end Path

namespace Images

open CrossCheck.Path Text Text.Utf8

/-! ### Names of images -/

/-- **The name of an image:** it does not start with a dot, and what follows its last dot is text,
and one of the extensions but for the case of letters. -/
structure IsImageName (extensions : List String) (name : OsString) : Prop where
  visible : ¬ [dot] <+: name.bytes
  extension : ∃ stem ext, name.bytes = stem ++ dot :: encode ext ∧ stem ≠ [] ∧ '.' ∉ ext ∧
    ∃ wanted ∈ extensions, lower wanted.toList = lower ext

theorem isHidden_iff {name : OsString} : isHidden name = true ↔ [dot] <+: name.bytes := by
  rw [isHidden, decide_eq_true_iff]
  cases name.bytes with
  | nil => simp
  | cons b bs => simp [eq_comm]

theorem hasExtension_iff {extensions : List String} {name : OsString} :
    hasExtension extensions name = true ↔
      ∃ stem ext, name.bytes = stem ++ dot :: encode ext ∧ stem ≠ [] ∧ '.' ∉ ext ∧
        ∃ wanted ∈ extensions, lower wanted.toList = lower ext := by
  simp only [hasExtension, Option.any_eq_true, Option.bind_eq_some_iff, extension?_eq_some_iff,
    decode?_eq_some_iff, List.any_eq_true, sameLetters, decide_eq_true_iff]
  constructor
  · rintro ⟨ext, ⟨_, ⟨stem, hname, hstem, hext⟩, rfl⟩, hwanted⟩
    exact ⟨stem, ext, hname, hstem, mt dot_mem_encode_iff.mpr hext, hwanted⟩
  · rintro ⟨stem, ext, hname, hstem, hext, hwanted⟩
    exact ⟨ext, ⟨_, ⟨stem, hname, hstem, mt dot_mem_encode_iff.mp hext⟩, rfl⟩, hwanted⟩

theorem isImage_iff {extensions : List String} {e : Entry} :
    isImage extensions e = true ↔ e.isFile = true ∧ IsImageName extensions e.name := by
  rw [isImage, Bool.and_eq_true, Bool.and_eq_true, Bool.not_eq_true', ← Bool.not_eq_true,
    isHidden_iff, hasExtension_iff]
  constructor
  · rintro ⟨⟨hvisible, hfile⟩, hextension⟩
    exact ⟨hfile, hvisible, hextension⟩
  · rintro ⟨hfile, hvisible, hextension⟩
    exact ⟨⟨hvisible, hfile⟩, hextension⟩

theorem IsImageName.congr {x y : List String} {name : OsString}
    (h : ∀ l, l ∈ x.map (fun e => lower e.toList) → l ∈ y.map fun e => lower e.toList)
    (hname : IsImageName x name) : IsImageName y name := by
  obtain ⟨hvisible, stem, ext, hsplit, hstem, hext, wanted, hwanted, hsame⟩ := hname
  have hlower : lower ext ∈ x.map fun e => lower e.toList := List.mem_map.mpr ⟨_, hwanted, hsame⟩
  exact ⟨hvisible, stem, ext, hsplit, hstem, hext, List.mem_map.mp (h _ hlower)⟩

/-- **Extensions** count in any letter case and any order, however often they stand there. -/
theorem isImage_congr {x y : List String}
    (h : ∀ l, l ∈ x.map (fun e => lower e.toList) ↔ l ∈ y.map fun e => lower e.toList) :
    isImage x = isImage y := by
  funext e
  rw [Bool.eq_iff_iff, isImage_iff, isImage_iff]
  exact and_congr_right fun _ => ⟨.congr fun l => (h l).mp, .congr fun l => (h l).mpr⟩

/-! ### Their order -/

/-- **What a directory lists:** each name once, and no name with a slash in it. -/
structure Listing (entries : List Entry) : Prop where
  nodup : (entries.map Entry.name).Nodup
  no_slash : ∀ e ∈ entries, slash ∉ e.name.bytes

/-- The names of the images among the entries of a directory. -/
def imageNames (extensions : List String) (entries : List Entry) : List OsString :=
  ((entries.filter (isImage extensions)).mergeSort fun a b => decide (a.name ≤ b.name)).map
    Entry.name

theorem ofEntries_eq (path : OsString) (extensions : List String) (entries : List Entry) :
    ofEntries path extensions entries = (imageNames extensions entries).map (join path) := by
  rw [ofEntries, imageNames, List.map_map]
  rfl

theorem mem_imageNames {extensions : List String} {entries : List Entry} {name : OsString} :
    name ∈ imageNames extensions entries ↔
      ⟨name, true⟩ ∈ entries ∧ IsImageName extensions name := by
  simp only [imageNames, List.mem_map, List.mem_mergeSort, List.mem_filter, isImage_iff]
  constructor
  · rintro ⟨⟨_, _⟩, ⟨he, rfl, hname⟩, rfl⟩
    exact ⟨he, hname⟩
  · rintro ⟨he, hname⟩
    exact ⟨_, ⟨he, rfl, hname⟩, rfl⟩

/-- One name stands before another in the order of bytes. -/
def Precedes (a b : OsString) : Prop := a.bytes < b.bytes

instance : Std.Irrefl Precedes := ⟨fun a => List.lt_irrefl a.bytes⟩

instance : Std.Asymm Precedes := ⟨fun _ _ h h' => List.lt_asymm h h'⟩

theorem pairwise_imageNames (extensions : List String) {entries : List Entry}
    (h : (entries.map Entry.name).Nodup) : (imageNames extensions entries).Pairwise Precedes := by
  have hsorted : (imageNames extensions entries).Pairwise (· ≤ ·) := by
    rw [imageNames, List.pairwise_map]
    refine (List.pairwise_mergeSort ?_ ?_ _).imp of_decide_eq_true
    · intro a b c hab hbc
      exact decide_eq_true (List.le_trans (of_decide_eq_true hab) (of_decide_eq_true hbc))
    · intro a b
      rw [Bool.or_eq_true, decide_eq_true_iff, decide_eq_true_iff]
      exact List.le_total a.name.bytes b.name.bytes
  have hnodup : (imageNames extensions entries).Nodup := by
    have hperm := List.mergeSort_perm (entries.filter (isImage extensions))
      fun a b => decide (a.name ≤ b.name)
    exact (hperm.map Entry.name).nodup_iff.mpr (h.sublist (List.filter_sublist.map Entry.name))
  refine (hsorted.and hnodup).imp fun {a b} hboth => Std.lt_of_le_of_ne hboth.1 fun hbytes => ?_
  cases a
  cases b
  exact hboth.2 (congrArg OsString.mk hbytes)

/-- **The order of the listing** does not matter. -/
theorem imageNames_perm (extensions : List String) {x y : List Entry} (h : x.Perm y)
    (hnodup : (x.map Entry.name).Nodup) : imageNames extensions x = imageNames extensions y := by
  have hnodup' : (y.map Entry.name).Nodup := (h.map Entry.name).nodup_iff.mp hnodup
  refine (pairwise_imageNames extensions hnodup).eq_of_mem_iff
    (pairwise_imageNames extensions hnodup') fun name => ?_
  rw [mem_imageNames, mem_imageNames, h.mem_iff]

/-! ### What is found -/

variable {look : OsString → Place} {path : OsString}

theorem find_of_directory {entries : List Entry} (h : look path = .directory entries)
    (extensions : List String) :
    find look path extensions = .ok (ofEntries path extensions entries) := by
  rw [find, h]

theorem find_of_file (h : look path = .file) (extensions : List String) :
    find look path extensions = .ok [path] := by
  rw [find, h]

/-- **The search fails** on what is not there and on what cannot be listed, and on nothing else. -/
theorem find_eq_error_iff {extensions : List String} {e : ImageError} :
    find look path extensions = .error e ↔
      (∃ cause, look path = .nothing cause ∧ e = .inaccessible path cause) ∨
        ∃ cause, look path = .unlistable cause ∧ e = .unlistable path cause := by
  unfold find
  cases look path <;> simp [eq_comm]

end Images

end CrossCheck
