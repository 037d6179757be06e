import ValidatorGen.Native.Discovery
import ValidatorGen.Proofs.Disk.Tree
import ValidatorGen.Proofs.Path
import Mathlib.Data.List.Sort

/-!
# The files of a schema folder

A schema source that is a folder stands for the schema files in it and in the folders below, those
of hidden folders apart.

* `mem_visits_iff` — what the search for them comes to;
* `pairwise_visits` — it goes in the order of names, folder by folder;
* `visits_relisted` — the order in which folders list their entries does not matter;
* `sourceFiles_folder` — so it is for the schema files, if no path on the way is too long.
-/

namespace ValidatorGen

/-! ## The order of names -/

theorem CodePoint.toNat_injective : Function.Injective CodePoint.toNat := fun a b h => by
  rw [← a.ofNat_toNat, h, b.ofNat_toNat]

instance : Std.IsLinearOrder CodePoint where
  le_refl a := Nat.le_refl a.toNat
  le_trans a _ _ := Nat.le_trans (n := a.toNat)
  le_antisymm _ _ hab hba := CodePoint.toNat_injective (Nat.le_antisymm hab hba)
  le_total _ _ := Nat.le_total _ _

instance : Std.LawfulOrderLT CodePoint where
  lt_iff _ _ := Nat.lt_iff_le_and_not_ge

/-! ## Trees -/

namespace Node

/-- A tree in which no folder has a name twice. -/
inductive IsTree : Node → Prop
  | file (c : List UInt8) : IsTree (file c)
  | folder (es : List (Text × Node)) (names : (Ordered.keys es).Nodup)
      (entries : ∀ e ∈ es, IsTree e.2) : IsTree (folder es)

/-- The same tree, with the entries of its folders listed in any other order. -/
inductive Relisted : Node → Node → Prop
  | refl (n : Node) : Relisted n n
  | perm {es fs : List (Text × Node)} (h : es.Perm fs) : Relisted (folder es) (folder fs)
  | entry {n m : Node} (front : List (Text × Node)) (a : Text) (back : List (Text × Node))
      (h : Relisted n m) :
      Relisted (folder (front ++ (a, n) :: back)) (folder (front ++ (a, m) :: back))
  | trans {n m k : Node} (h : Relisted n m) (h' : Relisted m k) : Relisted n k

theorem isTree_of_mem {es : List (Text × Node)} (h : (folder es).IsTree) {e : Text × Node}
    (he : e ∈ es) : e.2.IsTree := by
  cases h with
  | folder _ _ hentries => exact hentries e he

theorem IsTree.relisted {n m : Node} (hn : n.IsTree) (h : Relisted n m) : m.IsTree := by
  induction h with
  | refl => exact hn
  | perm h =>
    cases hn with
    | folder _ hnames hentries =>
      exact .folder _ ((h.map Prod.fst).nodup_iff.1 hnames) fun e he => hentries e (h.mem_iff.2 he)
  | @entry n m front a back _ ih =>
    cases hn with
    | folder _ hnames hentries =>
      have hm := ih (hentries (a, n) (by simp))
      refine .folder _ (by simpa [Ordered.keys] using hnames) fun e he => ?_
      rcases List.mem_append.1 he with he | he
      · exact hentries e (List.mem_append_left _ he)
      · rcases List.mem_cons.1 he with rfl | he
        · exact hm
        · exact hentries e (List.mem_append_right _ (List.mem_cons_of_mem _ he))
  | trans _ _ ih ih' => exact ih' (ih hn)

end Node

/-- The path that goes on below `p` with these names. -/
def Path.below (p : Path) (names : List Text) : Path := ⟨p.slashes, p.parts ++ names⟩

namespace Native

open Node

/-! ## In the order of names -/

section

variable {α : Type} {xs ys : List (Text × List α)}

/-- The order of names, as the sorting asks for it. -/
def nameLE (x y : Text × List α) : Bool := x.1 ≤ y.1

theorem nameLE_trans (x y z : Text × List α) (hxy : nameLE x y = true)
    (hyz : nameLE y z = true) : nameLE x z = true :=
  decide_eq_true (List.le_trans (of_decide_eq_true hxy) (of_decide_eq_true hyz))

theorem nameLE_total (x y : Text × List α) : (nameLE x y || nameLE y x) = true := by
  simpa [nameLE] using List.le_total x.1 y.1

theorem mem_byName {q : α} : q ∈ byName xs ↔ ∃ x ∈ xs, q ∈ x.2 := by
  simp [byName, List.mem_flatMap, List.mem_mergeSort]

/-- Entries with different names have one order. -/
theorem byName_perm (hxs : (Ordered.keys xs).Nodup) (h : xs.Perm ys) : byName xs = byName ys := by
  have hsort : xs.mergeSort nameLE = ys.mergeSort nameLE := by
    refine List.Perm.eq_of_pairwise (fun x y hx hy hxy hyx => ?_)
      (List.pairwise_mergeSort nameLE_trans nameLE_total xs)
      (List.pairwise_mergeSort nameLE_trans nameLE_total ys)
      ((List.mergeSort_perm xs _).trans (h.trans (List.mergeSort_perm ys _).symm))
    have hname : x.1 = y.1 := List.le_antisymm (of_decide_eq_true hxy) (of_decide_eq_true hyx)
    have hx := Ordered.get?_eq_some_of_mem hxs (List.mem_mergeSort.1 hx)
    have hy := Ordered.get?_eq_some_of_mem hxs (h.mem_iff.2 (List.mem_mergeSort.1 hy))
    rw [hname, hy] at hx
    exact Prod.ext hname (Option.some.inj hx).symm
  exact congrArg (List.flatMap Prod.snd) hsort

/-- What holds within each entry, and from an entry to those behind it, holds of all. -/
theorem pairwise_byName {R : α → α → Prop} (hxs : (Ordered.keys xs).Nodup)
    (hin : ∀ x ∈ xs, x.2.Pairwise R)
    (hout : ∀ x ∈ xs, ∀ y ∈ xs, x.1 < y.1 → ∀ q ∈ x.2, ∀ r ∈ y.2, R q r) :
    (byName xs).Pairwise R := by
  have hperm : (xs.mergeSort nameLE).Perm xs := List.mergeSort_perm xs _
  have hle := List.pairwise_mergeSort nameLE_trans nameLE_total xs
  have hne : (xs.mergeSort nameLE).Pairwise fun x y => x.1 ≠ y.1 :=
    List.pairwise_map.1 ((hperm.map Prod.fst).nodup_iff.2 hxs)
  refine List.pairwise_flatMap.2 ⟨fun x hx => hin x (hperm.mem_iff.1 hx), ?_⟩
  refine (hle.and hne).imp_of_mem fun {x y} hx hy hxy => ?_
  have hlt := (List.le_iff_lt_or_eq.1 (of_decide_eq_true hxy.1)).resolve_right hxy.2
  exact hout x (hperm.mem_iff.1 hx) y (hperm.mem_iff.1 hy) hlt

end

/-! ## Entries -/

variable {p : Path} {es fs : List (Text × Node)} {a : Text} {n m : Node} {names : List Text}
  {v : Visit}

/-- What the search comes to in a folder. -/
def visits (p : Path) (es : List (Text × Node)) : List Visit := byName (visitsIn p es)

theorem visitsIn_eq_map (p : Path) (es : List (Text × Node)) :
    visitsIn p es = es.map fun e => (e.1, visitsAt (p.child e.1) e.2) := by
  induction es with
  | nil => rfl
  | cons e es ih =>
    rw [visitsIn, ih]
    rfl

theorem keys_visitsIn (p : Path) (es : List (Text × Node)) :
    Ordered.keys (visitsIn p es) = Ordered.keys es := by
  rw [visitsIn_eq_map, Ordered.keys, List.map_map]
  rfl

theorem mem_visits : v ∈ visits p es ↔ ∃ e ∈ es, v ∈ visitsAt (p.child e.1) e.2 := by
  rw [visits, mem_byName, visitsIn_eq_map]
  simp

theorem forall_mem_visits {P : Visit → Prop} :
    (∀ v ∈ visits p es, P v) ↔ ∀ e ∈ es, ∀ v ∈ visitsAt (p.child e.1) e.2, P v := by
  simp only [mem_visits]
  exact ⟨fun h e he v hv => h v ⟨e, he, hv⟩, fun h v ⟨e, he, hv⟩ => h e he v hv⟩

theorem visitsAt_folder (p : Path) (a : Text) (es : List (Text × Node)) :
    visitsAt (p.child a) (.folder es)
      = ⟨p.child a, true⟩ ::
        if a.head? = some (.char '.') then [] else visits (p.child a) es := by
  rw [visitsAt, Path.name_child]
  rfl

/-- The search comes to the entry itself and, if it is a folder that is not hidden, to what is in
it. -/
theorem mem_visitsAt : v ∈ visitsAt (p.child a) n ↔
    v = ⟨p.child a, n.isFolder⟩ ∨
      ∃ fs, n = .folder fs ∧ a.head? ≠ some (.char '.') ∧ v ∈ visits (p.child a) fs := by
  cases n with
  | file c => simp [visitsAt, isFolder]
  | folder fs =>
    rw [visitsAt_folder]
    split_ifs with h <;> simp [h, isFolder]

/-! ## What the search comes to -/

/-- The search comes to this node by these names: no folder on the way is hidden. -/
structure IsVisited (n : Node) (names : List Text) (m : Node) : Prop where
  there : n.get? names = some m
  inside : names ≠ []
  visible : ∀ a ∈ names.dropLast, a.head? ≠ some (.char '.')

/-- A node that the search comes to is an entry of the folder or is below one that is not hidden. -/
theorem isVisited_folder_iff (hes : (Ordered.keys es).Nodup) :
    IsVisited (.folder es) names m ↔ ∃ e ∈ es, names = [e.1] ∧ m = e.2 ∨
      ∃ fs rest, e.2 = .folder fs ∧ e.1.head? ≠ some (.char '.') ∧ IsVisited (.folder fs) rest m ∧
        names = e.1 :: rest := by
  constructor
  · rintro ⟨hthere, hinside, hvisible⟩
    cases names with
    | nil => exact absurd rfl hinside
    | cons a rest =>
      rw [get?_cons_folder] at hthere
      obtain ⟨m', hm', hthere⟩ := Option.bind_eq_some_iff.1 hthere
      refine ⟨(a, m'), Ordered.mem_of_get?_eq_some hm', ?_⟩
      cases rest with
      | nil => exact .inl ⟨rfl, (Option.some.inj hthere).symm⟩
      | cons b rest =>
        obtain ⟨fs, _, rfl, -, -⟩ := exists_folder_of_get?_cons hthere
        rw [List.dropLast_cons_cons, List.forall_mem_cons] at hvisible
        exact .inr ⟨fs, b :: rest, rfl, hvisible.1,
          ⟨hthere, List.cons_ne_nil _ _, hvisible.2⟩, rfl⟩
  · rintro ⟨⟨a, m'⟩, he, ⟨rfl, rfl⟩ | ⟨fs, rest, rfl, ha, ⟨hthere, hinside, hvisible⟩, rfl⟩⟩
    · refine ⟨?_, List.cons_ne_nil _ _, by simp⟩
      rw [get?_cons_folder, Ordered.get?_eq_some_of_mem hes he]
      rfl
    · refine ⟨?_, List.cons_ne_nil _ _, ?_⟩
      · rw [get?_cons_folder, Ordered.get?_eq_some_of_mem hes he]
        exact hthere
      · rw [List.dropLast_cons_of_ne_nil hinside, List.forall_mem_cons]
        exact ⟨ha, hvisible⟩

theorem below_child (p : Path) (a : Text) (names : List Text) :
    (p.child a).below names = p.below (a :: names) := by
  simp [Path.below, Path.child]

/-- What the search comes to in a folder.  The induction is on the tree: what an entry contributes
is known from the folder that it is. -/
theorem mem_visits_iff (h : (Node.folder es).IsTree) (p : Path) (v : Visit) :
    v ∈ visits p es ↔
      ∃ names m, IsVisited (.folder es) names m ∧ v = ⟨p.below names, m.isFolder⟩ := by
  generalize hn : Node.folder es = n at h
  induction h generalizing es p with
  | file => cases hn
  | folder es' hnames _ ih =>
    cases hn
    rw [mem_visits]
    constructor
    · rintro ⟨⟨a, m⟩, he, hv⟩
      rcases mem_visitsAt.1 hv with rfl | ⟨fs, rfl, hvisible, hv⟩
      · exact ⟨[a], m, (isVisited_folder_iff hnames).2 ⟨_, he, .inl ⟨rfl, rfl⟩⟩, rfl⟩
      · obtain ⟨rest, m, hrest, rfl⟩ := (ih _ he (p.child a) rfl).1 hv
        exact ⟨a :: rest, m, (isVisited_folder_iff hnames).2
          ⟨_, he, .inr ⟨fs, rest, rfl, hvisible, hrest, rfl⟩⟩, by rw [below_child]⟩
    · rintro ⟨names, m, hm, rfl⟩
      obtain ⟨⟨a, m'⟩, he, ⟨rfl, rfl⟩ | ⟨fs, rest, rfl, hvisible, hrest, rfl⟩⟩ :=
        (isVisited_folder_iff hnames).1 hm
      · exact ⟨_, he, mem_visitsAt.2 (.inl rfl)⟩
      · exact ⟨_, he, mem_visitsAt.2 (.inr ⟨fs, rfl, hvisible,
          (ih _ he (p.child a) rfl).2 ⟨rest, m, hrest, by rw [below_child]⟩⟩)⟩

/-! ## Its order -/

/-- The search goes on below the name of an entry. -/
theorem parts_of_mem_visitsAt (h : n.IsTree) (hv : v ∈ visitsAt (p.child a) n) :
    ∃ rest, v.path.parts = p.parts ++ a :: rest := by
  rcases mem_visitsAt.1 hv with rfl | ⟨fs, rfl, -, hv⟩
  · exact ⟨[], rfl⟩
  · obtain ⟨rest, _, -, rfl⟩ := (mem_visits_iff h (p.child a) v).1 hv
    exact ⟨rest, by rw [below_child]; rfl⟩

theorem lt_append_cons {α : Type} [LT α] (s : List α) (a : α) (t : List α) : s < s ++ a :: t := by
  induction s with
  | nil => exact List.nil_lt_cons a t
  | cons b s ih => exact List.cons_lt_cons_iff.2 (.inr ⟨rfl, ih⟩)

/-- The search goes in the order of the parts. -/
theorem pairwise_visits (h : (Node.folder es).IsTree) (p : Path) :
    (visits p es).Pairwise fun v w => v.path.parts < w.path.parts := by
  generalize hn : Node.folder es = n at h
  induction h generalizing es p with
  | file => cases hn
  | folder es' hnames hentries ih =>
    cases hn
    refine pairwise_byName (by rwa [keys_visitsIn]) ?_ ?_
    · rw [visitsIn_eq_map, List.forall_mem_map]
      rintro ⟨a, m⟩ he
      cases m with
      | file c => exact List.pairwise_singleton _ _
      | folder fs =>
        rw [visitsAt_folder]
        split_ifs
        · exact List.pairwise_singleton _ _
        · -- A folder stands in front of what is in it.
          refine List.pairwise_cons.2 ⟨fun v hv => ?_, ih _ he (p.child a) rfl⟩
          obtain ⟨f, hf, hv⟩ := mem_visits.1 hv
          obtain ⟨rest, hrest⟩ := parts_of_mem_visitsAt (isTree_of_mem (hentries _ he) hf) hv
          rw [hrest]
          exact lt_append_cons _ _ _
    · rw [visitsIn_eq_map, List.forall_mem_map]
      intro e he
      rw [List.forall_mem_map]
      intro f hf hlt v hv w hw
      obtain ⟨s, hs⟩ := parts_of_mem_visitsAt (hentries e he) hv
      obtain ⟨t, ht⟩ := parts_of_mem_visitsAt (hentries f hf) hw
      rw [hs, ht]
      exact List.append_left_lt (List.cons_lt_cons_iff.2 (.inl hlt))

/-! ## Other lists of the same entries -/

theorem visits_perm (hes : (Ordered.keys es).Nodup) (h : es.Perm fs) (p : Path) :
    visits p fs = visits p es := by
  refine (byName_perm (by rwa [keys_visitsIn]) ?_).symm
  rw [visitsIn_eq_map, visitsIn_eq_map]
  exact h.map _

theorem visitsIn_entry (h : ∀ p, visitsAt p m = visitsAt p n) (front back : List (Text × Node))
    (p : Path) : visitsIn p (front ++ (a, m) :: back) = visitsIn p (front ++ (a, n) :: back) := by
  rw [visitsIn_eq_map, visitsIn_eq_map, List.map_append, List.map_append, List.map_cons,
    List.map_cons, h (p.child a)]

/-- The order in which folders list their entries does not matter. -/
theorem visits_relisted (hn : n.IsTree) (h : Relisted n m) (p : Path) :
    visitsAt p m = visitsAt p n ∧ sourceFiles p m = sourceFiles p n := by
  have hfolder : ∀ {es fs : List (Text × Node)} {p : Path}, visits p fs = visits p es →
      visitsAt p (.folder fs) = visitsAt p (.folder es) ∧
        sourceFiles p (.folder fs) = sourceFiles p (.folder es) := by
    intro es fs p hby
    unfold visits at hby
    exact ⟨by rw [visitsAt, visitsAt, hby], by simp only [sourceFiles, hby]⟩
  induction h generalizing p with
  | refl => exact ⟨rfl, rfl⟩
  | perm h =>
    cases hn with
    | folder _ hnames _ => exact hfolder (visits_perm hnames h p)
  | @entry n m front a back _ ih =>
    cases hn with
    | folder _ _ hentries =>
      have hat : ∀ p, visitsAt p m = visitsAt p n := fun p => (ih (hentries (a, n) (by simp)) p).1
      exact hfolder (congrArg byName (visitsIn_entry hat front back p))
  | trans h _ ih ih' =>
    obtain ⟨hat, hsource⟩ := ih hn p
    obtain ⟨hat', hsource'⟩ := ih' (hn.relisted h) p
    exact ⟨hat'.trans hat, hsource'.trans hsource⟩

/-! ## Schema files -/

/-- The name of a schema file. -/
def HasSourceSuffix (name : Text) : Prop := ∃ stem : Text, stem ≠ [] ∧ name = stem ++ ".prisma"

theorem suffixOf_eq_iff (name : Text) :
    Path.suffixOf name = sourceSuffix ↔ HasSourceSuffix name := by
  constructor
  · intro h
    obtain ⟨stem, hname⟩ := Path.suffixOf_suffix name
    rw [h] at hname
    refine ⟨stem, ?_, hname.symm⟩
    rintro rfl
    rw [← hname] at h
    exact absurd h (by decide)
  · rintro ⟨stem, hstem, rfl⟩
    exact Path.suffixOf_append hstem (by decide) (by decide)

/-- The way to a schema file, with no hidden folder on it. -/
structure IsSchemaFile (n : Node) (names : List Text) : Prop where
  file : ∃ c, n.get? names = some (.file c)
  suffix : ∃ name ∈ names.getLast?, HasSourceSuffix name
  visible : ∀ a ∈ names.dropLast, a.head? ≠ some (.char '.')

theorem isSchemaFile_below (p : Path) (ha : a ∈ names.getLast?) (m : Node) :
    Visit.isSchemaFile ⟨p.below names, m.isFolder⟩ = true ↔
      (∃ c, m = .file c) ∧ HasSourceSuffix a := by
  have hname : (p.below names).name = a := by
    rw [Path.name, Path.below, List.getLast?_append, Option.mem_def.1 ha]
    rfl
  rw [Visit.isSchemaFile, Path.suffix, hname, ← suffixOf_eq_iff]
  cases m <;> simp [isFolder]

/-- A schema file is what the search comes to and takes for one. -/
theorem isSchemaFile_iff (p : Path) : IsSchemaFile n names ↔
    ∃ m, IsVisited n names m ∧ Visit.isSchemaFile ⟨p.below names, m.isFolder⟩ = true := by
  constructor
  · rintro ⟨⟨c, hc⟩, ⟨a, ha, hsuffix⟩, hvisible⟩
    refine ⟨.file c, ⟨hc, ?_, hvisible⟩, (isSchemaFile_below p ha _).2 ⟨⟨c, rfl⟩, hsuffix⟩⟩
    rintro rfl
    cases ha
  · rintro ⟨m, ⟨hthere, hinside, hvisible⟩, hfile⟩
    have ha : names.getLast hinside ∈ names.getLast? := List.getLast?_eq_some_getLast hinside
    obtain ⟨⟨c, rfl⟩, hsuffix⟩ := (isSchemaFile_below p ha m).1 hfile
    exact ⟨⟨c, hthere⟩, ⟨_, ha, hsuffix⟩, hvisible⟩

/-- The files of a folder are the schema files that the search comes to. -/
theorem mem_schemaFiles_iff (h : (Node.folder es).IsTree) (p q : Path) :
    q ∈ ((visits p es).filter Visit.isSchemaFile).map Visit.path ↔
      ∃ names, IsSchemaFile (.folder es) names ∧ q = p.below names := by
  simp only [List.mem_map, List.mem_filter, mem_visits_iff h, isSchemaFile_iff p]
  constructor
  · rintro ⟨_, ⟨⟨names, m, hm, rfl⟩, hfile⟩, rfl⟩
    exact ⟨names, ⟨m, hm, hfile⟩, rfl⟩
  · rintro ⟨names, ⟨m, hm, hfile⟩, rfl⟩
    exact ⟨_, ⟨⟨names, m, hm, rfl⟩, hfile⟩, rfl⟩

/-- **The files of a folder** are the schema files in it and below that are not in a hidden folder,
each of them once, in the order of their parts; and they are the same in whatever order the folders
list their entries.  The disk must be willing to tell what is at each path that the search comes
to. -/
theorem sourceFiles_folder (h : (Node.folder es).IsTree) (p : Path)
    (hshort : ∀ names m, IsVisited (.folder es) names m →
      FileName.size (p.below names).text < Disk.maxPath) :
    ∃ files, sourceFiles p (.folder es) = .ok files ∧
      (∀ q, q ∈ files ↔ ∃ names, IsSchemaFile (.folder es) names ∧ q = p.below names) ∧
      files.Nodup ∧ files.Pairwise (fun q r => q.parts < r.parts) ∧
      ∀ m, Relisted (.folder es) m → sourceFiles p m = .ok files := by
  have hpairwise : (((visits p es).filter Visit.isSchemaFile).map Visit.path).Pairwise
      fun q r => q.parts < r.parts :=
    List.pairwise_map.2 ((pairwise_visits h p).filter _)
  have hfind : (visits p es).find? Visit.isTooLong = none := by
    rw [List.find?_eq_none]
    intro v hv
    obtain ⟨names, m, hm, rfl⟩ := (mem_visits_iff h p v).1 hv
    simpa [Visit.isTooLong] using hshort names m hm
  have hfiles : sourceFiles p (.folder es)
      = .ok (((visits p es).filter Visit.isSchemaFile).map Visit.path) := by
    unfold visits at hfind ⊢
    simp only [sourceFiles, hfind]
  refine ⟨_, hfiles, mem_schemaFiles_iff h p, hpairwise.imp ?_, hpairwise, fun m hm => ?_⟩
  · rintro q _ hlt rfl
    exact List.lt_irrefl _ hlt
  · rw [(visits_relisted h hm p).2, hfiles]

/-- Files between folders, one of which is hidden and one named like a file, listed in two ways. -/
theorem sourceFiles_folder_shop :
    let late : Text × Node := ("z.prisma", .file [])
    let models : Text × Node :=
      ("m.prisma", .folder [("b.prisma", .file []), ("a.prisma", .file [])])
    let hidden : Text × Node := (".git", .folder [("a.prisma", .file [])])
    let early : Text × Node := ("B.prisma", .file [])
    let plain : Text × Node := ("notes.txt", .file [])
    let es := [late, hidden, plain, models, early]
    let p : Path := .ofText "prisma"
    (Node.folder es).IsTree ∧ Relisted (.folder es) (.folder es.reverse) ∧
      (∀ names m, IsVisited (.folder es) names m →
        FileName.size (p.below names).text < Disk.maxPath) ∧
      ∃ files, sourceFiles p (.folder es) = .ok files ∧
        p.below ["m.prisma", "a.prisma"] ∈ files ∧ p.below [".git", "a.prisma"] ∉ files ∧
        files.Nodup ∧ files.Pairwise (fun q r => q.parts < r.parts) ∧
        sourceFiles p (.folder es.reverse) = .ok files := by
  intro late models hidden early plain es p
  have htree : (Node.folder es).IsTree := by
    refine .folder _ (by decide) ?_
    simp only [es, late, models, hidden, early, plain, List.forall_mem_cons]
    refine ⟨.file _, .folder _ (by decide) ?_, .file _, .folder _ (by decide) ?_, .file _, by simp⟩
    · simpa using .file _
    · simpa using .file _
  have hshort : ∀ names m, IsVisited (.folder es) names m →
      FileName.size (p.below names).text < Disk.maxPath := by
    have hmodels : ∀ v ∈ visitsAt (p.child models.1) models.2,
        FileName.size v.path.text < Disk.maxPath := by
      refine List.forall_mem_cons.2 ⟨by decide, ?_⟩
      exact forall_mem_visits.2 (by decide)
    have hall : ∀ v ∈ visits p es, FileName.size v.path.text < Disk.maxPath := by
      refine forall_mem_visits.2 ?_
      simp only [es, List.forall_mem_cons]
      exact ⟨by decide, by decide, by decide, hmodels, by decide, by simp⟩
    intro names m hm
    exact hall _ ((mem_visits_iff htree p _).2 ⟨names, m, hm, rfl⟩)
  have hrelisted : Relisted (.folder es) (.folder es.reverse) := .perm es.reverse_perm.symm
  obtain ⟨files, hfiles, hmem, hnodup, hpairwise, hlist⟩ := sourceFiles_folder htree p hshort
  have hfile : IsSchemaFile (.folder es) ["m.prisma", "a.prisma"] :=
    ⟨⟨[], rfl⟩, ⟨"a.prisma", rfl, "a", by decide, by decide⟩, by decide⟩
  have hhidden : ¬ ∃ names, IsSchemaFile (.folder es) names ∧
      p.below [".git", "a.prisma"] = p.below names := by
    rintro ⟨names, hnames, heq⟩
    obtain rfl : ([".git", "a.prisma"] : List Text) = names :=
      List.append_cancel_left (congrArg Path.parts heq)
    exact hnames.visible ".git" List.mem_cons_self rfl
  exact ⟨htree, hrelisted, hshort, files, hfiles, (hmem _).2 ⟨_, hfile, rfl⟩,
    fun h => hhidden ((hmem _).1 h), hnodup, hpairwise, hlist _ hrelisted⟩

end Native

end ValidatorGen
