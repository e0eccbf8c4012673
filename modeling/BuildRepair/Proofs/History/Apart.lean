import BuildRepair.Proofs.File.Looking
import BuildRepair.Proofs.History.RoundTrip

/-
  Histories under one base directory. The file of a repository stands in a directory that its name
  is made safe for. Saving the history of a repository leaves what is loaded for another one as it
  is, if their safe names differ and the base directory is there or made by going down only
  (`load_apart`); that cannot be relied on otherwise. Different names may have one safe name, and
  then the history that was saved for one repository is loaded for the other (`load_shared`).
-/

namespace BuildRepair

/-! ## Safe names -/

theorem Path.isName_of_unmarked {name : String} (hne : name ≠ "") (hslash : '/' ∉ name.toList)
    (hdot : '.' ∉ name.toList) : IsName name := by
  refine isName_of_not_mem hslash hne ?_ ?_
  · rintro rfl
    exact hdot (by decide)
  · rintro rfl
    exact hdot (by decide)

namespace Memory

open BuildRepair.Tree (Grows)

variable {m m' n : Memory} {t u : Tree} {repo a b file : String} {given : Option History}
  {now : Timestamp} {base : Path} {h : History} {result : Except Failure Unit} {k : Place}
  {ups names : List String}

/-- Whether a safe name keeps a character. -/
def isSafeChar (c : Char) : Bool :=
  Text.isAsciiLetter c || Text.isAsciiDigit c || c == '_' || c == '-'

theorem ascii_of_isSafeChar {c : Char} (h : isSafeChar c = true) : c.val ≤ 127 := by
  simp only [isSafeChar, Text.isAsciiLetter, Text.isAsciiDigit, Bool.or_eq_true, Bool.and_eq_true,
    decide_eq_true_eq, beq_iff_eq, Char.le_def] at h
  rcases h with (((h | h) | h) | rfl) | rfl
  · exact UInt32.le_trans h.2 (by decide)
  · exact UInt32.le_trans h.2 (by decide)
  · exact UInt32.le_trans h.2 (by decide)
  · decide
  · decide

theorem mem_safeName {c : Char} (h : c ∈ (safeName repo).toList) : isSafeChar c = true := by
  unfold safeName at h
  rw [String.toList_ofList] at h
  obtain ⟨d, -, rfl⟩ := List.mem_map.mp (List.mem_of_mem_take h)
  dsimp only
  split
  · next hkeep => exact hkeep
  · decide

theorem length_safeName (repo : String) : (safeName repo).toList.length ≤ nameLimit := by
  unfold safeName
  rw [String.toList_ofList, List.length_take]
  exact Nat.min_le_left _ _

theorem size_safeName (repo : String) : (safeName repo).utf8ByteSize ≤ Tree.nameLimit := by
  have hsize : (safeName repo).utf8ByteSize = (safeName repo).toList.length := by
    rw [← Text.utf8ByteSize_ofList fun c hc => ascii_of_isSafeChar (mem_safeName hc),
      String.ofList_toList]
  rw [hsize]
  exact Nat.le_trans (length_safeName repo) (by decide)

theorem isName_safeName (hne : repo ≠ "") : Path.IsName (safeName repo) := by
  refine Path.isName_of_unmarked ?_ ?_ ?_
  · intro hempty
    have hnil := congrArg String.toList hempty
    unfold safeName at hnil
    rw [String.toList_ofList, String.toList_empty, List.take_eq_nil_iff,
      List.map_eq_nil_iff] at hnil
    rcases hnil with hlimit | hnil
    · cases hlimit
    · exact hne (String.toList_eq_nil_iff.mp hnil)
  · intro hslash
    exact absurd (mem_safeName hslash) (by decide)
  · intro hdot
    exact absurd (mem_safeName hdot) (by decide)

/-- A name that is safe as it is. -/
structure IsSafe (repo : String) : Prop where
  kept : ∀ c ∈ repo.toList, isSafeChar c = true
  short : repo.toList.length ≤ nameLimit

theorem IsSafe.safeName_eq (h : IsSafe repo) : safeName repo = repo := by
  have hmap : (repo.toList.map fun c => if isSafeChar c then c else '_') = repo.toList := by
    conv_rhs => rw [← List.map_id repo.toList]
    refine List.map_congr_left fun c hc => ?_
    rw [if_pos (h.kept c hc), id]
  show String.ofList ((repo.toList.map fun c => if isSafeChar c then c else '_').take nameLimit) = _
  rw [hmap, List.take_of_length_le h.short, String.ofList_toList]

/-! ## Files in directories side by side -/

/-- A base directory that is there, or that is reached by going up first and then down through names
that are not too long. -/
def Settled (t : Tree) (base : Path) : Prop :=
  t.isDirectory base = .ok true ∨
    ".." ∉ base.parts.dropWhile (· == "..") ∧
      ∀ name ∈ base.parts, name.utf8ByteSize ≤ Tree.nameLimit

/-- Where a base directory is there, what is written for a name stands in the directory of that
name. -/
theorem grows_below (ha : Path.IsName a) (hf : Path.IsName file)
    (hbase : t.walk (t.start base) base.parts = .ok (k, some .directory))
    (hw : write h t ((base.child a).child file) = (u, result)) :
    Grows (fun l => ∃ rest, l = k ++ a :: rest) t u := by
  rw [Path.child_child ha hf] at hw
  refine write_grows (by simp) hw ?_
  intro v i l e hv _ hl he
  have hvbase : v.walk (v.start base) base.parts = .ok (k, some .directory) := by
    obtain ⟨e', hwalk⟩ := hv.walk hbase
    have hget : some e' = v.get? k := Tree.walk_get? hwalk
    rw [Tree.start_congr hv.working, hwalk, hget, hv.directory (Tree.walk_get? hbase).symm]
  have hbelow {found : Place × Option Entry}
      (hwalk : v.walk (v.start base) (base.parts ++ [a]) = .ok found) : found.1 = k ++ [a] := by
    obtain ⟨k', hk', hfound⟩ := Tree.walk_snoc ha.2 hwalk
    rw [hvbase] at hk'
    cases hk'
    exact hfound
  have hwalk : v.walk (v.start base) ((base.parts ++ [a, file]).take i) = .ok (l, e) :=
    Tree.walk_of_locate hl
  rw [List.take_append] at hwalk
  cases hi : i - base.parts.length with
  | zero =>
    -- the path ends on the way to the base directory, where there are directories only
    rw [hi, List.take_zero, List.append_nil] at hwalk
    rw [← List.take_append_drop i base.parts] at hvbase
    exact absurd (Tree.directory_on_way (Tree.walk_eq_ok.mp hvbase) (Tree.walk_eq_ok.mp hwalk)) he
  | succ j =>
    rw [hi, List.take_of_length_le (by omega), List.take_succ_cons] at hwalk
    cases j with
    | zero => exact ⟨[], hbelow hwalk⟩
    | succ j =>
      rw [List.take_succ_cons, List.take_nil, ← List.singleton_append, ← List.append_assoc] at hwalk
      obtain ⟨k', hk', hfound⟩ := Tree.walk_snoc hf.2 hwalk
      have hk : k' = k ++ [a] := hbelow hk'
      dsimp only at hfound
      rw [hfound, hk, List.append_assoc]
      exact ⟨[file], rfl⟩

/-- What is written along a path that goes up first and then down stands on the way down. -/
theorem grows_along {p : Path} (hg : t.Grounded) (hp : p.parts = ups ++ names)
    (hups : ∀ n ∈ ups, n = "..") (hup : ".." ∉ names) (hnames : names ≠ [])
    (hclimb : ∀ v, Tree.KeepsDirectories t v → ∀ rest,
      v.walk (t.start p) (ups ++ rest) = v.walk k rest)
    (hw : write h t p = (u, result)) : Grows (fun l => l <+: k ++ names) t u := by
  refine write_grows (by simp [hp, hnames]) hw ?_
  intro v i l e hv _ hl he
  have hkeeps : Tree.KeepsDirectories t v := ⟨hv.working, fun _ => hv.directory⟩
  have hwalk : v.walk (v.start p) (p.parts.take i) = .ok (l, e) := Tree.walk_of_locate hl
  rw [Tree.start_congr hv.working, hp, List.take_append] at hwalk
  rcases Nat.le_total i ups.length with hi | hi
  · -- the path ends on the way up, where there are directories only
    obtain ⟨k', hk', hclimb'⟩ := hg.climb (fun n hn => hups n (List.mem_of_mem_take hn)) (hg.start p)
    rw [Nat.sub_eq_zero_of_le hi, List.take_zero, hclimb' v hkeeps] at hwalk
    cases hwalk
    exact absurd (hv.directory hk') he
  · rw [List.take_of_length_le hi, hclimb v hkeeps] at hwalk
    have hplace := Tree.walk_place (fun hmem => hup (List.mem_of_mem_take hmem)) hwalk
    dsimp only at hplace
    rw [hplace]
    exact (List.prefix_append_right_inj k).mpr (List.take_prefix ..)

/-- Where a base directory is there, a file written for a name is not seen under another name. -/
theorem look_below (ha : Path.IsName a) (hb : Path.IsName b) (hf : Path.IsName file) (hne : a ≠ b)
    (hbase : t.walk (t.start base) base.parts = .ok (k, some .directory))
    (hw : write h t ((base.child a).child file) = (u, result)) :
    u.look ((base.child b).child file) = t.look ((base.child b).child file) := by
  have hgrows := grows_below ha hf hbase hw
  have hsame : u.walk k [b, file] = t.walk k [b, file] := by
    refine Tree.walk_congr ?_ ?_
    · simp [Ne.symm hb.2, Ne.symm hf.2]
    · intro i
      rcases hgrows.places (k ++ [b, file].take i) with hi | ⟨⟨rest, hrest⟩, hdir, -⟩
      · exact hi
      · rw [List.append_cancel_left_eq] at hrest
        cases i with
        | zero => cases hrest
        | succ i =>
          rw [List.take_succ_cons] at hrest
          cases hrest
          exact absurd rfl hne
  refine Tree.look_congr (congrArg Tree.sight ?_)
  rw [Tree.start_congr hgrows.working, Path.child_child hb hf]
  exact Tree.walk_append_congr ⟨hgrows.working, fun _ => hgrows.directory⟩
    (Tree.walk_eq_ok.mp hbase) hsame

/-- Where the way down to a base directory does not lead there, a file under a name in it is not
seen, and still not if the base directory is made for another name. -/
theorem sight_unmade (hb : Path.IsName b) (hshort : b.utf8ByteSize ≤ Tree.nameLimit)
    (hg : t.Grounded) (hup : ".." ∉ names)
    (hnames : ∀ name ∈ names, name.utf8ByteSize ≤ Tree.nameLimit)
    (hbase : t.get? (k ++ names) ≠ some .directory)
    (hu : u.get? (k ++ names ++ [b]) = t.get? (k ++ names ++ [b])) :
    Tree.sight (u.walk k (names ++ [b, file])) = .ok none := by
  rw [← List.singleton_append, ← List.append_assoc]
  refine Tree.sight_blocked ?_ ?_ ?_
  · simp [hup, Ne.symm hb.2]
  · intro n hn
    rcases List.mem_append.mp hn with hn | hn
    · exact hnames n hn
    · rw [List.mem_singleton.mp hn]
      exact hshort
  · rw [← List.append_assoc, hu]
    exact fun hdir => hbase (hg.places _ b _ hdir)

/-- Under a settled base directory a file written for a name is not seen under another name. -/
theorem look_apart (ha : Path.IsName a) (hb : Path.IsName b) (hf : Path.IsName file) (hne : a ≠ b)
    (hshort : b.utf8ByteSize ≤ Tree.nameLimit) (hg : t.Grounded) (hs : Settled t base)
    (hw : write h t ((base.child a).child file) = (u, result)) :
    u.look ((base.child b).child file) = t.look ((base.child b).child file) := by
  by_cases hthere : ∃ k, t.walk (t.start base) base.parts = .ok (k, some .directory)
  · obtain ⟨k, hk⟩ := hthere
    exact look_below ha hb hf hne hk hw
  rw [not_exists] at hthere
  rcases hs with hdir | ⟨hup, hnames⟩
  · obtain ⟨k, hk⟩ := Tree.isDirectory_eq_true.mp hdir
    exact absurd (Tree.walk_of_locate hk) (hthere k)
  -- the path goes up to `k`, and down from there through `names`
  obtain ⟨ups, names, hparts, hups, hup⟩ : ∃ ups names, base.parts = ups ++ names ∧
      (∀ n ∈ ups, n = "..") ∧ ".." ∉ names := by
    refine ⟨base.parts.takeWhile (· == ".."), _, List.takeWhile_append_dropWhile.symm, ?_, hup⟩
    intro n hn
    simpa using List.mem_takeWhile_imp hn
  rw [hparts] at hthere hnames
  obtain ⟨k, -, hclimb⟩ := hg.climb hups (hg.start base)
  have hunmade : t.get? (k ++ names) ≠ some .directory := by
    intro hdir
    refine hthere (k ++ names) ?_
    rw [hclimb t (.refl t), Tree.walk_eq_ok]
    exact hg.walk hup (fun n hn => hnames n (List.mem_append_right _ hn)) hdir
  have hgrows : Grows (fun l => l <+: k ++ (names ++ [a, file])) t u := by
    rw [Path.child_child ha hf, hparts, List.append_assoc] at hw
    exact grows_along (p := ⟨base.root, ups ++ (names ++ [a, file])⟩) hg rfl hups
      (by simp [hup, Ne.symm ha.2, Ne.symm hf.2]) (by simp) hclimb hw
  have hsame : u.get? (k ++ names ++ [b]) = t.get? (k ++ names ++ [b]) := by
    rcases hgrows.places (k ++ names ++ [b]) with hsame | ⟨hway, -⟩
    · exact hsame
    · rw [← List.append_assoc, List.prefix_append_right_inj, List.cons_prefix_cons] at hway
      exact absurd hway.1.symm hne
  have hunseen {v : Tree} (hv : v.get? (k ++ names ++ [b]) = t.get? (k ++ names ++ [b])) :
      Tree.sight (v.walk k (names ++ [b, file])) = .ok none :=
    sight_unmade hb hshort hg hup (fun n hn => hnames n (List.mem_append_right _ hn)) hunmade hv
  refine Tree.look_congr ?_
  rw [Path.child_child hb hf, hparts, List.append_assoc]
  have hstart : u.start ⟨base.root, ups ++ (names ++ [b, file])⟩ = t.start base :=
    Tree.start_congr hgrows.working base
  rw [hstart, hclimb u ⟨hgrows.working, fun _ => hgrows.directory⟩, hunseen hsame]
  exact ((congrArg Tree.sight (hclimb t (.refl t) _)).trans (hunseen rfl)).symm

/-! ## Histories of two repositories -/

/-- What is loaded depends on what is seen at the place of the history file. -/
theorem load_congr {p : Path} (hp : ∀ v, n.path v repo = .ok p) (hlook : u.look p = t.look p) :
    n.load u repo = n.load t repo := by
  have hholds : u.holds p = t.holds p := by
    unfold Tree.holds
    rw [hlook]
  unfold load
  rw [hp, hp]
  dsimp only
  rw [hholds]
  split
  · rfl
  · split
    · rfl
    · rfl
    · next there =>
      obtain ⟨l, e, hl⟩ := Tree.holds_eq_true.mp there
      have hseen : t.look p = .ok (some e) := by
        unfold Tree.look
        rw [hl]
      unfold read
      rw [Tree.readText_congr hseen (hlook.trans hseen)]

theorem path_under (hm : m.base = some base) (t : Tree) (repo : String) :
    m.path t repo = .ok ((base.child (safeName repo)).child Settings.historyFile) := by
  unfold path
  rw [hm]

/-- What saving writes, whether it goes through or not. -/
theorem write_of_save {p : Path} (hs : m.save t repo given now = (u, m', result))
    (hp : m.path t repo = .ok p) : write (given.getD (m.history repo now)) t p = (u, result) := by
  have hpath : (if given.isSome then m else m.opened repo now).path t repo = .ok p :=
    (path_base (by split <;> rfl) t repo).trans hp
  unfold save at hs
  dsimp only at hs
  rw [hpath] at hs
  dsimp only at hs
  split at hs
  · next hw =>
    cases hs
    exact hw
  · next hw =>
    cases hs
    exact hw

/-- The history of one repository is saved, or was to be saved, under a base directory, and that of
another repository is loaded by a memory that has none of it.
* If the two names have different safe names and the base directory is settled, what is loaded is
  what was loaded before.
* If they have the same safe name and saving a history of strings went through, that history is
  loaded, whatever was there before.
* Names that are safe as they are have different safe names if they differ. -/
theorem load_apart (hm : m.base = some base) (hn : n.base = some base) (ha : a ≠ "") (hb : b ≠ "")
    (hfresh : Assoc.find? b n.histories = none) (hg : t.Grounded)
    (hs : m.save t a given now = (u, m', result)) :
    (safeName a ≠ safeName b → Settled t base → n.load u b = n.load t b) ∧
    (safeName a = safeName b → result = .ok () → (given.getD (m.history a now)).IsPlain →
      (n.load u b).2 = .ok (some (given.getD (m.history a now)))) ∧
    (IsSafe a → IsSafe b → a ≠ b → safeName a ≠ safeName b) := by
  have hfile : Path.IsName Settings.historyFile := by decide
  have hw := write_of_save hs (path_under hm t a)
  refine ⟨?_, ?_, ?_⟩
  · intro hne hsettled
    exact load_congr (fun v => path_under hn v b) (look_apart (isName_safeName ha)
      (isName_safeName hb) hfile hne (size_safeName b) hg hsettled hw)
  · intro hsame hok hplain
    rw [hok] at hw
    have hp : n.path u b = .ok ((base.child (safeName a)).child Settings.historyFile) := by
      rw [hsame, path_under hn]
    obtain ⟨text, htext, hthere⟩ := hasFile_of_write hw hp
    exact load_hasFile hplain htext hfresh hthere
  · intro hsafe hsafe' hne
    rwa [hsafe.safeName_eq, hsafe'.safeName_eq]

/-- A memory that keeps histories in a directory. -/
def shelved : Memory := { base := some ⟨"", ["h"]⟩ }

/-- A tree with the history files of two repositories there. -/
def shelf (text other : String) : Tree :=
  { entries := [(["h"], .directory),
      (["h", "a"], .directory), (["h", "a", "fix-history.json"], .file (.text text)),
      (["h", "b"], .directory), (["h", "b", "fix-history.json"], .file (.text other))] }

theorem shelf_grounded (text other : String) : (shelf text other).Grounded := by
  refine Tree.grounded_of_entries rfl ?_
  unfold shelf
  simp only [List.forall_mem_cons, List.not_mem_nil, false_imp_iff, implies_true, and_true]
  exact ⟨rfl, rfl, rfl, rfl, rfl⟩

/-- The history of one repository is loaded as before when that of another one was saved. -/
theorem load_apart_forced : ∃ t u m',
    shelved.save t "a" (some (forced "a")) .default = (u, m', .ok ()) ∧
      (shelved.load t "b").2 = .ok (some (forced "b")) ∧
      shelved.load u "b" = shelved.load t "b" := by
  obtain ⟨text, htext⟩ := forced_toText "a"
  obtain ⟨other, hother⟩ := forced_toText "b"
  have hp : shelved.path (shelf text other) "a" = .ok ⟨"", ["h", "a", "fix-history.json"]⟩ := rfl
  have hfree : (shelf text other).locate (Path.beside ⟨"", ["h", "a", "fix-history.json"]⟩ 5) =
      .ok (["h", "a", ".fix-history.json.00000005.tmp"], none) := rfl
  obtain ⟨u, hreplace⟩ := Tree.replaceText_of_free ⟨_, _, rfl⟩ hfree text
  have hs := save_given .default hp rfl htext hreplace
  refine ⟨shelf text other, u, _, hs, ?_, ?_⟩
  · exact load_hasFile (forced_isPlain "b") hother rfl ⟨_, _, rfl, rfl⟩
  · obtain ⟨hapart, -, -⟩ := load_apart (n := shelved) (b := "b") rfl rfl (by decide) (by decide)
      rfl (shelf_grounded text other) hs
    exact hapart (by decide) (.inl rfl)

/-- A history that is saved for one repository is loaded for another one that had none. -/
theorem load_shared : ∃ u m',
    shelved.save {} "a/b" (some (forced "a/b")) .default = (u, m', .ok ()) ∧
      (shelved.load {} "a_b").2 = .ok none ∧
      (shelved.load u "a_b").2 = .ok (some (forced "a/b")) := by
  obtain ⟨text, htext⟩ := forced_toText "a/b"
  have hp : shelved.path {} "a/b" = .ok ⟨"", ["h", "a_b", "fix-history.json"]⟩ := rfl
  have hs := save_given .default hp rfl htext rfl
  refine ⟨_, _, hs, rfl, ?_⟩
  exact load_hasFile (forced_isPlain "a/b") htext rfl ⟨_, _, rfl, rfl⟩

end Memory
end BuildRepair
