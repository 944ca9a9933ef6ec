import CrossCheck.Host.Snapshot
import CrossCheck.Proofs.Selection

/-! # Listings and the search for images

A path is followed name by name, and a symbolic link on the way stands for the names of its target
(`Follows`, `follow_eq_ok_iff`). In a tree in which every node has a place of its own and no name
has a slash in it, a directory lists each name right below it once (`WellFormed.listing`), and says
of it whether its path leads to a regular file (`file_mem_entries_iff`). Every snapshot has such a
tree (`Snapshot.wellFormed_tree`). Given such listings, the search for images is exact
(`find_exact`). -/

namespace CrossCheck.Host

namespace Tree

/-! ### Following names -/

/-- **Names lead from a place to a place,** with at most a number of symbolic links on the way. A
link stands for the names of its target. -/
inductive Follows (t : Tree) : Nat → List String → List String → List String → Prop where
  | done (links : Nat) (place : List String) : Follows t links place [] place
  | here {links : Nat} {place names goal : List String} (hd : t.node? place = some .directory)
      (h : Follows t links place names goal) : Follows t links place ("." :: names) goal
  | up {links : Nat} {place names goal : List String} (hd : t.node? place = some .directory)
      (h : Follows t links place.dropLast names goal) : Follows t links place (".." :: names) goal
  | down {links : Nat} {place names goal : List String} {name : String} {node : Node}
      (hd : t.node? place = some .directory) (hhere : name ≠ ".") (hup : name ≠ "..")
      (hshort : name.utf8ByteSize ≤ maxNameBytes) (hnode : t.node? (place ++ [name]) = some node)
      (hlink : ∀ target, node ≠ .link target) (h : Follows t links (place ++ [name]) names goal) :
      Follows t links place (name :: names) goal
  | link {links : Nat} {place names goal : List String} {name target : String}
      (hd : t.node? place = some .directory) (hhere : name ≠ ".") (hup : name ≠ "..")
      (hshort : name.utf8ByteSize ≤ maxNameBytes)
      (hnode : t.node? (place ++ [name]) = some (.link target))
      (h : Follows t links (if isFromRoot target then [] else place) (parts target ++ names)
        goal) : Follows t (links + 1) place (name :: names) goal

section Steps

variable {t : Tree} {place : List String}

theorem follow_here (hd : t.node? place = some .directory) (links : Nat) (names : List String) :
    t.follow links place ("." :: names) = t.follow links place names := by
  rw [follow.eq_def]
  simp only [hd, ne_eq, not_true_eq_false, if_false, if_true]

theorem follow_up (hd : t.node? place = some .directory) (links : Nat) (names : List String) :
    t.follow links place (".." :: names) = t.follow links place.dropLast names := by
  have hne : ¬ ".." = "." := by decide
  rw [follow.eq_def]
  simp only [hd, ne_eq, not_true_eq_false, if_false, if_true, if_neg hne]

variable {name : String} (hd : t.node? place = some .directory) (hhere : name ≠ ".")
  (hup : name ≠ "..") (hshort : name.utf8ByteSize ≤ maxNameBytes)

include hd hhere hup hshort

theorem follow_down {node : Node} (hnode : t.node? (place ++ [name]) = some node)
    (hlink : ∀ target, node ≠ .link target) (links : Nat) (names : List String) :
    t.follow links place (name :: names) = t.follow links (place ++ [name]) names := by
  rw [follow.eq_def]
  simp only [hd, ne_eq, not_true_eq_false, if_false, if_neg hhere, if_neg hup,
    if_neg (Nat.not_lt.mpr hshort), hnode]
  cases node with
  | link target => exact absurd rfl (hlink target)
  | _ => rfl

theorem follow_link {target : String} (hnode : t.node? (place ++ [name]) = some (.link target))
    (links : Nat) (names : List String) :
    t.follow (links + 1) place (name :: names) =
      t.follow links (if isFromRoot target then [] else place) (parts target ++ names) := by
  rw [follow.eq_def]
  simp only [hd, ne_eq, not_true_eq_false, if_false, if_neg hhere, if_neg hup,
    if_neg (Nat.not_lt.mpr hshort), hnode]

end Steps

theorem follow_eq_ok_iff {t : Tree} {links : Nat} {place names goal : List String} :
    t.follow links place names = .ok goal ↔ t.Follows links place names goal := by
  constructor
  · intro h
    fun_induction follow t links place names with
    | case1 links place =>
      obtain rfl := Except.ok.inj h
      exact .done links place
    | case3 links place names hd ih => exact .here (Classical.not_not.mp hd) (ih h)
    | case4 links place names hd _ ih => exact .up (Classical.not_not.mp hd) (ih h)
    | case8 place name names hd hhere hup hlong target links hnode ih =>
      exact .link (Classical.not_not.mp hd) hhere hup (Nat.not_lt.mp hlong) hnode (ih h)
    | case9 place name names hd hhere hup hlong node links hzero hsucc hnode ih =>
      refine .down (Classical.not_not.mp hd) hhere hup (Nat.not_lt.mp hlong) hnode ?_ (ih h)
      intro target hlink
      cases links with
      | zero => exact hzero target rfl hlink
      | succ links => exact hsucc target links rfl hlink
    | _ => cases h
  · intro h
    induction h with
    | done links place => rw [follow]
    | here hd _ ih => rw [follow_here hd, ih]
    | up hd _ ih => rw [follow_up hd, ih]
    | down hd hhere hup hshort hnode hlink _ ih =>
      rw [follow_down hd hhere hup hshort hnode hlink, ih]
    | link hd hhere hup hshort hnode _ ih => rw [follow_link hd hhere hup hshort hnode, ih]

/-! ### What paths lead to -/

/-- **A path leads to a place** from a directory: it is neither empty nor too long, there is no NUL
in it, and its names lead to the place. -/
structure Resolves (t : Tree) (directory : List String) (path : String) (place : List String) :
    Prop where
  nonempty : path ≠ ""
  no_nul : '\x00' ∉ path.toList
  short : path.utf8ByteSize ≤ maxPathBytes
  follows :
    t.Follows maxLinks (if isFromRoot path then [] else directory) (parts path) place

/-- **A path of any bytes leads to a place:** it is text, and that text does. -/
def LeadsTo (t : Tree) (directory : List String) (path : OsString) (place : List String) : Prop :=
  ∃ text : String, OsString.ofText text = path ∧ t.Resolves directory text place

/-- A path leads to a regular file, through symbolic links or not. -/
def LeadsToFile (t : Tree) (directory : List String) (path : OsString) : Prop :=
  ∃ place node, t.LeadsTo directory path place ∧ t.node? place = some node ∧ isFile node = true

variable {t : Tree} {directory : List String} {place : List String}

theorem find_eq_ok_iff {path : String} :
    t.find directory path = .ok place ↔ t.Resolves directory path place := by
  unfold find
  constructor
  · intro h
    by_cases hempty : path.isEmpty = true
    · rw [if_pos hempty] at h
      cases h
    by_cases hnul : path.toList.contains '\x00' = true
    · rw [if_neg hempty, if_pos hnul] at h
      cases h
    by_cases hlong : maxPathBytes < path.utf8ByteSize
    · rw [if_neg hempty, if_neg hnul, if_pos hlong] at h
      cases h
    rw [if_neg hempty, if_neg hnul, if_neg hlong] at h
    exact ⟨by simpa using hempty, by simpa using hnul, Nat.not_lt.mp hlong, follow_eq_ok_iff.mp h⟩
  · rintro ⟨hempty, hnul, hshort, hfollows⟩
    rw [if_neg (by simpa using hempty), if_neg (by simpa using hnul),
      if_neg (Nat.not_lt.mpr hshort)]
    exact follow_eq_ok_iff.mpr hfollows

theorem findNode_eq_ok_iff {path : String} {node : Node} :
    t.findNode directory path = .ok node ↔
      ∃ place, t.Resolves directory path place ∧ t.node? place = some node := by
  simp only [← find_eq_ok_iff, findNode, bind, Except.bind]
  cases t.find directory path with
  | error e => simp
  | ok place =>
    simp only [Except.ok.injEq, exists_eq_left']
    cases t.node? place with
    | none => simp
    | some n => simp [pure, Except.pure]

variable {path : OsString}

theorem findBytes_eq_ok_iff :
    t.findBytes directory path = .ok place ↔ t.LeadsTo directory path place := by
  simp only [LeadsTo, ← OsString.text?_eq_some_iff, ← find_eq_ok_iff, findBytes]
  cases path.text? <;> simp

theorem findNodeBytes_eq_ok_iff {node : Node} :
    t.findNodeBytes directory path = .ok node ↔
      ∃ place, t.LeadsTo directory path place ∧ t.node? place = some node := by
  simp only [LeadsTo, ← OsString.text?_eq_some_iff, findNodeBytes]
  cases path.text? <;> simp [findNode_eq_ok_iff]

theorem any_isFile_findNodeBytes_iff :
    (t.findNodeBytes directory path).toOption.any isFile = true ↔
      t.LeadsToFile directory path := by
  have hsome : ∀ node, (t.findNodeBytes directory path).toOption = some node ↔
      ∃ place, t.LeadsTo directory path place ∧ t.node? place = some node := by
    intro node
    rw [← findNodeBytes_eq_ok_iff]
    cases t.findNodeBytes directory path <;> simp [Except.toOption]
  rw [Option.any_eq_true]
  constructor
  · rintro ⟨node, hnode, hfile⟩
    obtain ⟨place, hplace, hnode⟩ := (hsome node).mp hnode
    exact ⟨place, node, hplace, hnode, hfile⟩
  · rintro ⟨place, node, hplace, hnode, hfile⟩
    exact ⟨node, (hsome node).mpr ⟨place, hplace, hnode⟩, hfile⟩

theorem look_of_ne_directory (h : t.LeadsTo directory path place)
    (hnode : t.node? place ≠ some .directory) : t.look directory path = .file := by
  rw [look, findBytes_eq_ok_iff.mpr h]
  dsimp only
  split
  · exact absurd ‹_› hnode
  · rfl

theorem exists_look_eq_nothing_iff :
    (∃ cause, t.look directory path = .nothing cause) ↔
      ∀ place, ¬ t.LeadsTo directory path place := by
  simp only [← findBytes_eq_ok_iff, look]
  cases t.findBytes directory path with
  | error f => simp
  | ok place =>
    simp only [Except.ok.injEq, forall_eq', iff_false]
    split <;> simp

theorem look_ne_unlistable (cause : String) : t.look directory path ≠ .unlistable cause := by
  unfold look
  split
  · simp
  · split <;> simp

/-! ### Directories -/

/-- What a directory lists for a node below it. -/
def child? (place : List String) (entry : List String × Node) : Option (String × Node) :=
  match entry.1.getLast? with
  | some name => if entry.1.dropLast = place then some (name, entry.2) else none
  | none => none

theorem children_eq (t : Tree) (place : List String) :
    t.children place = t.nodes.filterMap (child? place) := rfl

theorem child?_eq_some_iff {entry : List String × Node} {name : String} {node : Node} :
    child? place entry = some (name, node) ↔ entry = (place ++ [name], node) := by
  obtain ⟨names, node'⟩ := entry
  rcases List.eq_nil_or_concat' names with rfl | ⟨before, last, rfl⟩
  · simp [child?]
  · rw [child?, List.getLast?_concat, List.dropLast_concat]
    by_cases hbefore : before = place
    · subst hbefore
      simp
    · simp [hbefore]

theorem mem_children_iff {name : String} {node : Node} :
    (name, node) ∈ t.children place ↔ (place ++ [name], node) ∈ t.nodes := by
  simp only [children_eq, List.mem_filterMap, child?_eq_some_iff, exists_eq_right]

/-- A name without a slash in each part. -/
def Flat (names : List String) : Prop :=
  ∀ name ∈ names, '/' ∉ name.toList

/-- **A file tree as systems have it:** each node has a place of its own, and a slash is in no name.
-/
structure WellFormed (t : Tree) : Prop where
  nodup : (t.nodes.map Prod.fst).Nodup
  flat : ∀ entry ∈ t.nodes, Flat entry.1

/-- The entries of the directory at a place that a path leads to. -/
def entries (t : Tree) (directory : List String) (path : OsString) (place : List String) :
    List Entry :=
  (t.children place).map fun child =>
    { name := child.1
      isFile := (t.findNodeBytes directory (Path.join path child.1)).toOption.any isFile }

theorem look_of_directory (h : t.LeadsTo directory path place)
    (hnode : t.node? place = some .directory) :
    t.look directory path = .directory (t.entries directory path place) := by
  rw [look, findBytes_eq_ok_iff.mpr h]
  simp only [hnode]
  rfl

theorem exists_of_look_eq_directory {es : List Entry} (h : t.look directory path = .directory es) :
    ∃ place, t.entries directory path place = es := by
  unfold look at h
  rcases hplace : t.findBytes directory path with f | place
  · rw [hplace] at h
    cases h
  · rw [hplace] at h
    dsimp only at h
    split at h
    · exact ⟨place, Place.directory.inj h⟩
    · cases h

theorem LeadsToFile.look (h : t.LeadsToFile directory path) : t.look directory path = .file := by
  obtain ⟨place, node, hplace, hnode, hfile⟩ := h
  refine look_of_ne_directory hplace ?_
  rw [hnode]
  rintro ⟨⟩
  cases hfile

/-- There is a node of a name right below a place. -/
def Holds (t : Tree) (place : List String) (name : OsString) : Prop :=
  ∃ text : String, OsString.ofText text = name ∧ (t.node? (place ++ [text])).isSome = true

theorem map_name_entries :
    (t.entries directory path place).map Entry.name =
      (t.children place).map fun child => OsString.ofText child.1 := by
  rw [entries, List.map_map]
  rfl

theorem WellFormed.nodup_children (ht : t.WellFormed) (place : List String) :
    ((t.children place).map Prod.fst).Nodup := by
  have hplaces : t.nodes.Pairwise fun a b => a.1 ≠ b.1 := List.pairwise_map.mp ht.nodup
  rw [List.Nodup, List.pairwise_map, children_eq, List.pairwise_filterMap]
  refine hplaces.imp fun {a b} hne child hchild child' hchild' heq => hne ?_
  rw [child?_eq_some_iff.mp hchild, child?_eq_some_iff.mp hchild', heq]

theorem WellFormed.listing (ht : t.WellFormed) (directory : List String) (path : OsString)
    (place : List String) : Images.Listing (t.entries directory path place) := by
  refine ⟨?_, fun e he => ?_⟩
  · rw [map_name_entries, ← Function.comp_def, ← List.map_map]
    exact (ht.nodup_children place).map OsString.ofText_injective
  · obtain ⟨⟨name, node⟩, hchild, rfl⟩ := List.mem_map.mp he
    have hflat := ht.flat _ (mem_children_iff.mp hchild) name (by simp)
    exact mt Path.slash_mem_encode_iff.mp hflat

theorem mem_name_entries_iff {name : OsString} :
    name ∈ (t.entries directory path place).map Entry.name ↔ t.Holds place name := by
  have hlookup : ∀ text, (t.node? (place ++ [text])).isSome = true ↔
      ∃ node, (place ++ [text], node) ∈ t.nodes := by
    intro text
    rw [node?, if_neg (by simp), List.lookup_isSome_iff]
    simp
  simp only [map_name_entries, Holds, hlookup, List.mem_map, Prod.exists, mem_children_iff]
  constructor
  · rintro ⟨text, node, hnode, rfl⟩
    exact ⟨text, rfl, node, hnode⟩
  · rintro ⟨text, rfl, node, hnode⟩
    exact ⟨text, node, hnode, rfl⟩

theorem isFile_iff_of_mem_entries {e : Entry} (he : e ∈ t.entries directory path place) :
    e.isFile = true ↔ t.LeadsToFile directory (Path.join path e.name) := by
  obtain ⟨child, -, rfl⟩ := List.mem_map.mp he
  exact any_isFile_findNodeBytes_iff

/-- **The files of a directory** are the names right below it whose paths lead to regular files. -/
theorem file_mem_entries_iff {name : OsString} :
    ⟨name, true⟩ ∈ t.entries directory path place ↔
      t.Holds place name ∧ t.LeadsToFile directory (Path.join path name) := by
  rw [← mem_name_entries_iff]
  constructor
  · intro he
    exact ⟨List.mem_map.mpr ⟨_, he, rfl⟩, (isFile_iff_of_mem_entries he).mp rfl⟩
  · rintro ⟨hname, hfile⟩
    obtain ⟨⟨_, isFile⟩, he, rfl⟩ := List.mem_map.mp hname
    obtain rfl : isFile = true := (isFile_iff_of_mem_entries he).mpr hfile
    exact he

/-! ### Trees that are made -/

theorem slash_notMem_of_mem_splitOn {s piece : List Char} (h : piece ∈ s.splitOn '/') :
    '/' ∉ piece := by
  rw [List.splitOn_eq_splitOnP] at h
  induction s generalizing piece with
  | nil =>
    rw [List.splitOnP_nil, List.mem_singleton] at h
    simp [h]
  | cons c s ih =>
    obtain ⟨first, rest, hs⟩ := List.exists_cons_of_ne_nil (List.splitOnP_ne_nil (· == '/') s)
    rw [hs] at ih
    rw [List.splitOnP_cons_eq_if_modifyHead, hs, List.modifyHead_cons] at h
    by_cases hc : c = '/'
    · rw [if_pos (beq_iff_eq.mpr hc), List.mem_cons] at h
      rcases h with rfl | h
      · simp
      · exact ih h
    · rw [if_neg (mt beq_iff_eq.mp hc), List.mem_cons] at h
      rcases h with rfl | h
      · simp [Ne.symm hc, ih List.mem_cons_self]
      · exact ih (List.mem_cons_of_mem _ h)

theorem flat_parts (path : String) : Flat (parts path) := by
  intro name hname
  rcases List.mem_append.mp hname with hname | hname
  · obtain ⟨piece, hpiece, rfl⟩ := List.mem_map.mp (List.mem_filter.mp hname).1
    simpa using slash_notMem_of_mem_splitOn hpiece
  · split at hname
    · obtain rfl := List.mem_singleton.mp hname
      decide
    · cases hname

theorem Follows.flat {links : Nat} {place names goal : List String}
    (h : t.Follows links place names goal) (hplace : Flat place) (hnames : Flat names) :
    Flat goal := by
  induction h with
  | done => exact hplace
  | here _ _ ih => exact ih hplace (List.forall_mem_cons.mp hnames).2
  | up _ _ ih =>
    exact ih (fun name hname => hplace name (List.dropLast_subset _ hname))
      (List.forall_mem_cons.mp hnames).2
  | down _ _ _ _ _ _ _ ih =>
    obtain ⟨hname, hnames⟩ := List.forall_mem_cons.mp hnames
    exact ih (List.forall_mem_append.mpr ⟨hplace, List.forall_mem_singleton.mpr hname⟩) hnames
  | link _ _ _ _ _ _ ih =>
    refine ih ?_ (List.forall_mem_append.mpr ⟨flat_parts _, (List.forall_mem_cons.mp hnames).2⟩)
    split
    · simp [Flat]
    · exact hplace

theorem WellFormed.set (ht : t.WellFormed) (hplace : Flat place) (node : Node) :
    (t.set place node).WellFormed := by
  refine ⟨?_, ?_⟩
  · rw [Tree.set, List.map_append, List.map_singleton]
    refine List.Nodup.append ?_ (List.nodup_singleton _) ?_
    · exact ht.nodup.sublist (List.filter_sublist.map Prod.fst)
    · simp [List.disjoint_singleton]
  · intro entry hentry
    rcases List.mem_append.mp hentry with hentry | hentry
    · exact ht.flat entry (List.mem_filter.mp hentry).1
    · obtain rfl := List.mem_singleton.mp hentry
      exact hplace

/-- A tree and a place in it, as they are while a path is made. -/
structure Sound (here : Tree × List String) : Prop where
  tree : here.1.WellFormed
  place : Flat here.2

theorem Sound.flat_follow {here : Tree × List String} (h : Sound here) {names : List String}
    (hnames : Flat names) :
    Flat ((here.1.follow maxLinks here.2 names).toOption.getD (here.2 ++ names)) := by
  cases hfollow : here.1.follow maxLinks here.2 names with
  | ok place => exact (follow_eq_ok_iff.mp hfollow).flat h.place hnames
  | error e => exact List.forall_mem_append.mpr ⟨h.place, hnames⟩

theorem Sound.enter {here : Tree × List String} (h : Sound here) {name : String}
    (hname : '/' ∉ name.toList) : Sound (enter here name) := by
  have hplace := h.flat_follow (List.forall_mem_singleton.mpr hname)
  unfold Tree.enter
  cases hfollow : here.1.follow maxLinks here.2 [name] with
  | ok place =>
    rw [hfollow] at hplace
    exact ⟨h.tree, hplace⟩
  | error e =>
    rw [hfollow] at hplace
    exact ⟨h.tree.set hplace .directory, hplace⟩

theorem Sound.foldl_enter {here : Tree × List String} (h : Sound here) {names : List String}
    (hnames : Flat names) : Sound (names.foldl Tree.enter here) :=
  List.foldlRecOn names Tree.enter h fun _ hhere name hname => hhere.enter (hnames name hname)

theorem WellFormed.put (ht : t.WellFormed) (hdirectory : Flat directory) (path : String)
    (node : Node) : (t.put directory path node).WellFormed := by
  have hstart : Sound (t, if isFromRoot path then [] else directory) := by
    refine ⟨ht, ?_⟩
    dsimp only
    split
    · simp [Flat]
    · exact hdirectory
  have hbefore : Flat (parts path).dropLast := fun name hname =>
    flat_parts path name (List.dropLast_subset _ hname)
  have hlast : Flat (parts path).getLast?.toList := fun name hname =>
    flat_parts path name (List.mem_of_getLast? (Option.mem_toList.mp hname))
  have hhere := hstart.foldl_enter hbefore
  cases node with
  | directory => exact (hstart.foldl_enter (flat_parts path)).tree
  | _ => exact hhere.tree.set (hhere.flat_follow hlast) _

theorem wellFormed_baseTree : baseTree.WellFormed := by
  constructor
  · decide +kernel
  · unfold Flat
    decide +kernel

end Tree

/-- The tree of every snapshot is well formed. -/
theorem Snapshot.wellFormed_tree (j : Json) : (Snapshot.ofJson j).tree.WellFormed := by
  have hdirectory : Tree.Flat (Snapshot.ofJson j).directory := fun name hname =>
    Tree.flat_parts _ name (List.mem_filter.mp hname).1
  have hroot : Tree.Flat [] := by simp [Tree.Flat]
  refine List.foldlRecOn _ _ (Tree.wellFormed_baseTree.put hroot _ .directory) ?_
  intro t ht item _
  split
  · exact ht.put hdirectory _ _
  · exact ht

end CrossCheck.Host

namespace CrossCheck.Images

open CrossCheck.Path Text Text.Utf8

/-! ### The search for images -/

/-- **The images in a directory** by their names: its regular files that have the name of an image,
each once and in the order of the bytes of their names. -/
structure Selected (extensions : List String) (entries : List Entry) (names : List OsString) :
    Prop where
  mem_iff : ∀ name, name ∈ names ↔ ⟨name, true⟩ ∈ entries ∧ IsImageName extensions name
  increasing : names.Pairwise fun a b => a.bytes < b.bytes

theorem Listing.selected {entries : List Entry} (h : Listing entries) (extensions : List String) :
    Selected extensions entries (imageNames extensions entries) where
  mem_iff _ := mem_imageNames
  increasing := pairwise_imageNames extensions h.nodup

theorem slash_notMem_of_mem_imageNames {extensions : List String} {entries : List Entry}
    (h : Listing entries) {name : OsString} (hname : name ∈ imageNames extensions entries) :
    slash ∉ name.bytes :=
  h.no_slash _ (mem_imageNames.mp hname).1

theorem Listing.nodup_paths {entries : List Entry} (h : Listing entries) (path : OsString)
    (extensions : List String) : ((imageNames extensions entries).map (join path)).Nodup := by
  rw [List.Nodup, List.pairwise_map]
  refine (pairwise_imageNames extensions h.nodup).imp_of_mem fun {a b} ha hb hlt heq => ?_
  have hslash := slash_notMem_of_mem_imageNames h ha
  have hslash' := slash_notMem_of_mem_imageNames h hb
  obtain rfl := (join_inj (isAbsolute_eq_false hslash) (isAbsolute_eq_false hslash')).mp heq
  exact irrefl_of Precedes a hlt

theorem Listing.not_mem_paths_of_subdirectory {entries : List Entry} (h : Listing entries)
    (path : OsString) (extensions : List String) {sub inner : OsString} (hsub : sub.bytes ≠ [])
    (hflat : slash ∉ sub.bytes) (hinner : isAbsolute inner = false) :
    join (join path sub) inner ∉ (imageNames extensions entries).map (join path) := by
  intro hmem
  obtain ⟨name, hname, heq⟩ := List.mem_map.mp hmem
  have hslash := slash_notMem_of_mem_imageNames h hname
  exact join_join_ne_join hsub hflat hinner hslash heq.symm

theorem find_of_entries {look : OsString → Place} {path : OsString} {entries : List Entry}
    (h : look path = .directory entries) (extensions : List String) :
    find look path extensions = .ok ((imageNames extensions entries).map (join path)) := by
  rw [find_of_directory h, ofEntries_eq]

theorem exists_find_eq_error_iff {t : Host.Tree} {directory : List String} {path : OsString}
    {extensions : List String} :
    (∃ e, find (t.look directory) path extensions = .error e) ↔
      ∀ place, ¬ t.LeadsTo directory path place := by
  rw [← Host.Tree.exists_look_eq_nothing_iff]
  simp only [find_eq_error_iff, Host.Tree.look_ne_unlistable]
  simp

/-- **The search for images is exact.** In a directory it finds the paths of the images in it, each
once and in the order of the bytes of their names, in whatever order the directory lists them, and
nothing from a subdirectory. Any other path that leads somewhere stands for itself. A path that
leads nowhere is an error, as is a directory that cannot be listed, and nothing else is. Of the
extensions nothing matters but which they are, up to the case of letters. In a file tree the images
in a directory are the names right below it which are names of images and whose paths lead to
regular files, through symbolic links or not. -/
theorem find_exact (look : OsString → Place) (path : OsString) (extensions : List String) :
    (∀ entries, look path = .directory entries → Listing entries →
      ∃ names : List OsString, find look path extensions = .ok (names.map (join path)) ∧
        Selected extensions entries names ∧ (names.map (join path)).Nodup ∧
        (∀ sub inner : OsString, sub.bytes ≠ [] → slash ∉ sub.bytes → isAbsolute inner = false →
          join (join path sub) inner ∉ names.map (join path)) ∧
        ∀ look' entries', look' path = .directory entries' → entries.Perm entries' →
          find look' path extensions = find look path extensions) ∧
    (look path = .file → find look path extensions = .ok [path]) ∧
    (∀ e, find look path extensions = .error e ↔
      (∃ cause, look path = .nothing cause ∧ e = .inaccessible path cause) ∨
        ∃ cause, look path = .unlistable cause ∧ e = .unlistable path cause) ∧
    (∀ extensions', (∀ l, l ∈ extensions.map (fun e => lower e.toList) ↔
        l ∈ extensions'.map fun e => lower e.toList) →
      find look path extensions' = find look path extensions) ∧
    ∀ (t : Host.Tree) (directory : List String), t.WellFormed → look = t.look directory →
      ((∃ e, find look path extensions = .error e) ↔
        ∀ place, ¬ t.LeadsTo directory path place) ∧
      ∀ place, t.LeadsTo directory path place →
        (t.node? place ≠ some .directory → find look path extensions = .ok [path]) ∧
        (t.node? place = some .directory →
          ∃ names : List OsString, find look path extensions = .ok (names.map (join path)) ∧
            (∀ name, name ∈ names ↔ t.Holds place name ∧
              t.LeadsToFile directory (join path name) ∧ IsImageName extensions name) ∧
            names.Pairwise fun a b => a.bytes < b.bytes) := by
  refine ⟨fun entries hlook hlisting => ?_, fun hfile => find_of_file hfile extensions,
    fun e => find_eq_error_iff, fun extensions' hsame => ?_, fun t directory ht hlook => ?_⟩
  · refine ⟨_, find_of_entries hlook extensions, hlisting.selected extensions,
      hlisting.nodup_paths path extensions,
      fun sub inner => hlisting.not_mem_paths_of_subdirectory path extensions,
      fun look' entries' hlook' hperm => ?_⟩
    rw [find_of_entries hlook', find_of_entries hlook,
      imageNames_perm extensions hperm hlisting.nodup]
  · unfold find ofEntries
    rw [isImage_congr hsame]
  · subst hlook
    refine ⟨exists_find_eq_error_iff, fun place hplace =>
      ⟨fun hnode => find_of_file (Host.Tree.look_of_ne_directory hplace hnode) extensions,
        fun hnode => ?_⟩⟩
    have hselected := (ht.listing directory path place).selected extensions
    refine ⟨_, find_of_entries (Host.Tree.look_of_directory hplace hnode) extensions,
      fun name => ?_, hselected.increasing⟩
    rw [hselected.mem_iff, Host.Tree.file_mem_entries_iff, and_assoc]

end CrossCheck.Images

namespace CrossCheck.Host.Tree

/-- A tree with a directory that holds two files, a link to a file elsewhere and a directory, all
of them named like images. -/
def cabinet : Tree where
  nodes :=
    [(["store"], .directory), (["store", "disk"], .file [] false), (["case"], .directory),
      (["case", "b.2.e01"], .file [] false), (["case", ".a.E01"], .file [] false),
      (["case", "a.E01"], .link "../store/disk"), (["case", "c.E01"], .directory)]

theorem wellFormed_cabinet : cabinet.WellFormed := by
  constructor
  · decide +kernel
  · unfold Flat
    decide +kernel

theorem resolves_cabinet : cabinet.Resolves [] "case" ["case"] := by
  have hparts : parts "case" = ["case"] := by decide +kernel
  refine ⟨by decide, by decide, by decide, ?_⟩
  rw [hparts]
  exact .down rfl (by decide) (by decide) (by decide) rfl (by simp) (.done _ _)

theorem resolves_cabinet_link : cabinet.Resolves [] "case/a.E01" ["store", "disk"] := by
  have hparts : parts "case/a.E01" = ["case", "a.E01"] := by decide +kernel
  have htarget : parts "../store/disk" = ["..", "store", "disk"] := by decide +kernel
  refine ⟨by decide, by decide, by decide, ?_⟩
  rw [hparts]
  refine .down rfl (by decide) (by decide) (by decide) rfl (by simp) ?_
  refine .link rfl (by decide) (by decide) (by decide) rfl ?_
  rw [htarget]
  refine .up rfl ?_
  refine .down rfl (by decide) (by decide) (by decide) rfl (by simp) ?_
  exact .down rfl (by decide) (by decide) (by decide) rfl (by simp) (.done _ _)

end CrossCheck.Host.Tree

namespace CrossCheck.Images

open Host.Tree

/-- A linked image is found, and a hidden file and what stands in a subdirectory are not, with the
directory listed either way round and the extension in either case. -/
theorem find_exact_of_link :
    let look := cabinet.look []
    let turned := fun _ : OsString => Place.directory (cabinet.entries [] "case" ["case"]).reverse
    ∃ paths, find look "case" ["e01"] = .ok paths ∧
      .ofText "case/a.E01" ∈ paths ∧ .ofText "case/.a.E01" ∉ paths ∧
      .ofText "case/c.E01/d.e01" ∉ paths ∧
      find turned "case" ["e01"] = .ok paths ∧ find look "case" ["E01", "e01"] = .ok paths ∧
      find look "case/a.E01" [] = .ok ["case/a.E01"] := by
  intro look turned
  have hcase : cabinet.LeadsTo [] "case" ["case"] := ⟨_, rfl, resolves_cabinet⟩
  have hstore : cabinet.LeadsTo [] "case/a.E01" ["store", "disk"] :=
    ⟨_, rfl, resolves_cabinet_link⟩
  have hlook : look "case" = .directory (cabinet.entries [] "case" ["case"]) :=
    look_of_directory hcase rfl
  have hlink : look "case/a.E01" = .file := look_of_ne_directory hstore (by decide)
  obtain ⟨hlisted, -, -, hsame, htree⟩ := find_exact look "case" ["e01"]
  obtain ⟨-, hresolved⟩ := htree cabinet [] wellFormed_cabinet rfl
  obtain ⟨names, hfind, hmem, -⟩ := (hresolved ["case"] hcase).2 rfl
  have hlisting := wellFormed_cabinet.listing [] "case" ["case"]
  obtain ⟨names', hfind', hselected, -, hsub, hperm⟩ := hlisted _ hlook hlisting
  have hpaths : names'.map (Path.join "case") = names.map (Path.join "case") :=
    Except.ok.inj (hfind'.symm.trans hfind)
  have hlinked : Path.join "case" "a.E01" = "case/a.E01" := by decide +kernel
  refine ⟨_, hfind, ?_, ?_, ?_, ?_, ?_, (find_exact look "case/a.E01" []).2.1 hlink⟩
  · have hname : IsImageName ["e01"] "a.E01" :=
      ⟨by decide +kernel, Text.Utf8.encode ['a'], ['E', '0', '1'], by decide +kernel,
        by decide +kernel, by decide, "e01", by decide, by decide⟩
    have ha : OsString.ofText "a.E01" ∈ names :=
      (hmem _).mpr ⟨⟨_, rfl, rfl⟩, ⟨_, _, hlinked ▸ hstore, rfl, rfl⟩, hname⟩
    exact List.mem_map.mpr ⟨_, ha, hlinked⟩
  · rw [← hpaths]
    intro hmem'
    obtain ⟨name, hname, heq⟩ := List.mem_map.mp hmem'
    obtain ⟨hentry, himage⟩ := (hselected.mem_iff name).mp hname
    have hrelative := Path.isAbsolute_eq_false (hlisting.no_slash _ hentry)
    have hjoin : Path.join "case" name = Path.join "case" ".a.E01" := heq.trans (by decide +kernel)
    obtain rfl := (Path.join_inj hrelative (by decide +kernel)).mp hjoin
    exact himage.visible (by decide +kernel)
  · have hinner : Path.join (Path.join "case" "c.E01") "d.e01" = "case/c.E01/d.e01" := by
      decide +kernel
    rw [← hpaths, ← hinner]
    exact hsub "c.E01" "d.e01" (by decide +kernel) (by decide +kernel) (by decide +kernel)
  · exact (hperm turned _ rfl (List.reverse_perm _).symm).trans hfind
  · refine (hsame ["E01", "e01"] ?_).trans hfind
    have hcase : Text.lower ['E', '0', '1'] = Text.lower ['e', '0', '1'] := by decide
    simp [hcase]

end CrossCheck.Images
