import BuildRepair.Proofs.File.Growth
import BuildRepair.Proofs.History.Room

/-
  Where the history of a repository stands, before and after it is saved. Without a base directory
  this depends on whether the name of the repository leads anywhere. Saving makes directories, so
  such a name may lead somewhere only afterwards. `Steady` says when that cannot be: there is a base
  directory, or the name leads somewhere already, or it counts as a path by its first character, or
  it never goes up. Then a history that was saved is looked for where it was written
  (`path_of_write`).
-/

namespace BuildRepair

/-! ## Names of directories -/

namespace Text

variable {s : List Char} {c : Char}

/-- A digest has no marks of a path. -/
theorem mem_digest {message : List UInt8} (h : c ∈ Sha256.digest message) : c ≠ '/' ∧ c ≠ '.' := by
  have hdigit : ∀ k < 16, hexDigit k ≠ '/' ∧ hexDigit k ≠ '.' := by decide
  obtain ⟨w, -, hw⟩ := List.mem_flatMap.mp h
  obtain ⟨k, hk, rfl⟩ := mem_hexText hw
  exact hdigit k hk

end Text

namespace Path

variable {s : String} {c : Char}

theorem up_not_mem_parts (h : '.' ∉ s.toList) : ".." ∉ (ofString s).parts := by
  intro hmem
  obtain ⟨hpiece, -⟩ := List.mem_filter.mp hmem
  obtain ⟨piece, hp, hup⟩ := List.mem_map.mp hpiece
  have hdot : '.' ∈ piece := by
    have : piece = ['.', '.'] := by
      rw [← String.toList_ofList (l := piece), hup]
      rfl
    rw [this]
    exact List.mem_cons_self ..
  exact h (Text.mem_of_mem_splitOn hp hdot)

/-- The first part of a relative path begins as its text does. -/
theorem head_parts (hslash : s.toList.head? ≠ some '/') (hdot : s.toList.head? ≠ some '.') :
    ∀ part ∈ (ofString s).parts.head?, part.toList.head? ≠ some '.' := by
  unfold ofString
  dsimp only
  generalize s.toList = cs at hslash hdot
  intro part hpart
  cases cs with
  | nil => cases hpart
  | cons c cs =>
    have hc : c ≠ '/' := fun h => hslash (congrArg some h)
    have hfirst : ∃ piece rest, Text.splitOn '/' (c :: cs) = (c :: piece) :: rest := by
      unfold Text.splitOn
      rw [if_neg hc]
      split
      · exact ⟨_, _, rfl⟩
      · exact ⟨_, _, rfl⟩
    obtain ⟨piece, rest, hsplit⟩ := hfirst
    have hkept : (String.ofList (c :: piece) != "" && String.ofList (c :: piece) != ".") = true := by
      rw [Bool.and_eq_true, bne_iff_ne, bne_iff_ne]
      refine ⟨?_, ?_⟩
      · intro h
        have := congrArg String.toList h
        rw [String.toList_ofList] at this
        cases this
      · intro h
        have := congrArg String.toList h
        rw [String.toList_ofList] at this
        exact hdot (congrArg List.head? this)
    rw [hsplit, List.map_cons, List.filter_cons, if_pos hkept, List.head?_cons] at hpart
    cases hpart
    rw [String.toList_ofList]
    exact hdot

end Path

/-! ## The place of a history file -/

namespace Memory

open BuildRepair.Tree (Grows)

variable {m n : Memory} {t u : Tree} {repo : String} {now : Timestamp} {p : Path} {h : History}

/-- A name that counts as a path by its first character. -/
def IsMarked (repo : String) : Prop := repo.toList.head? = some '/' ∨ repo.toList.head? = some '.'

/-- A repository whose history is looked for in one place before and after it is saved. -/
def Steady (m : Memory) (t : Tree) (repo : String) : Prop :=
  m.base.isSome = true ∨ t.holds (.ofString repo) = .ok true ∨ IsMarked repo ∨
    ".." ∉ (Path.ofString repo).parts

/-- Writing a history grows the tree along the path of its file, whether it goes through or not. -/
theorem write_grows {P : Place → Prop} {result : Except Failure Unit} (hparts : p.parts ≠ [])
    (hw : write h t p = (u, result))
    (hP : ∀ (v : Tree) (k : Nat) (l : Place) (e : Option Entry), Grows P t v →
      p.parts.take k ≠ [] → v.locate ⟨p.root, p.parts.take k⟩ = .ok (l, e) →
      e ≠ some .directory → P l) :
    Grows P t u := by
  have hdirs : Grows P t (t.makeDirectories p.parent).1 := by
    refine Tree.makeDirectoriesTo_grows t p.parent _ ?_
    intro v k l hv hk hl
    unfold Path.parent at hk hl
    rw [List.dropLast_eq_take, List.take_take] at hk hl
    exact hP v _ l none hv hk hl (by simp)
  have hfile {text : String} {v : Tree}
      (hwrite : (t.makeDirectories p.parent).1.writeText p text = .ok v) : Grows P t v := by
    refine hdirs.trans (Tree.writeText_grows hwrite ?_)
    intro l e hl he
    have hwhole : p.parts.take p.parts.length = p.parts := List.take_length
    exact hP _ p.parts.length l e hdirs (hwhole.symm ▸ hparts) (hwhole.symm ▸ hl) he
  unfold write at hw
  split at hw
  · next hmade =>
    cases hw
    rw [hmade] at hdirs
    exact hdirs
  · next v hmade =>
    rw [hmade] at hdirs hfile
    split at hw
    · cases hw
      exact hdirs
    · next text _ =>
      rcases Tree.replaceText_cases v p text with ⟨e, he⟩ | ⟨w, hreplace, hwrite⟩
      · rw [he] at hw
        cases hw
        exact hdirs
      · rw [hreplace] at hw
        cases hw
        exact hfile hwrite

/-- A path that goes down from where it starts into one directory changes nothing but what is in
there. -/
theorem write_grows_under {name : String} {parts : List String} (hparts : p.parts = name :: parts)
    (hup : ".." ∉ p.parts) (hw : write h t p = (u, .ok ())) :
    Grows (fun l => ∃ rest, l = t.start p ++ name :: rest) t u := by
  refine write_grows (by simp [hparts]) hw ?_
  intro v k l e hv hk hl _
  have hplace := Tree.walk_place (fun hmem => hup (List.mem_of_mem_take hmem))
    (Tree.walk_of_locate hl)
  have hstart : v.start ⟨p.root, p.parts.take k⟩ = t.start p := Tree.start_congr hv.working p
  dsimp only at hplace
  rw [hplace, hstart]
  cases k with
  | zero => exact absurd rfl hk
  | succ k => exact ⟨parts.take k, by rw [hparts, List.take_succ_cons]⟩

/-- Where looking went through before, it goes through in a tree in which the walk ends somewhere. -/
theorem holds_total {q : Path} {b : Bool} {found : Place × Option Entry} (ht : t.holds q = .ok b)
    (hw : u.walk (u.start q) q.parts = .ok found) : ∃ b', u.holds q = .ok b' := by
  unfold Tree.holds Tree.look Tree.locate at ht ⊢
  rw [hw]
  generalize Text.Utf8.halvesIn? Tree.isByteHalf q.text.toList = halves at ht ⊢
  cases halves with
  | some e => exact ⟨_, rfl⟩
  | none =>
    dsimp only at ht ⊢
    by_cases hnull : q.parts.any (·.toList.contains (Char.ofNat 0)) = true
    · rw [if_pos hnull]
      exact ⟨_, rfl⟩
    · by_cases hlong : Tree.pathLimit < q.text.utf8ByteSize
      · rw [if_neg hnull, if_pos hlong] at ht
        cases ht
      · rw [if_neg hnull, if_neg hlong]
        exact ⟨_, rfl⟩

theorem holds_of_directoryOf {q : Path} (hq : directoryOf t repo = .ok q) :
    ∃ there, t.holds (.ofString repo) = .ok there := by
  unfold directoryOf at hq
  split at hq
  · cases hq
  · next there hthere => exact ⟨there, hthere⟩

/-- The directory depends on whether the name leads anywhere. -/
theorem directoryOf_congr (h : u.holds (.ofString repo) = t.holds (.ofString repo)) :
    directoryOf u repo = directoryOf t repo := by
  unfold directoryOf
  rw [h]

theorem directoryOf_marked {there : Bool} (hmark : IsMarked repo)
    (h : t.holds (.ofString repo) = .ok there) : directoryOf t repo = .ok (.ofString repo) := by
  unfold directoryOf
  rw [h]
  rcases hmark with hmark | hmark
  · simp [hmark]
  · simp [hmark]

theorem directoryOf_missing (hmark : ¬ IsMarked repo)
    (h : t.holds (.ofString repo) = .ok false) : directoryOf t repo =
      (shortDigest repo).map (Path.working.child Settings.default.historyDirectory).child := by
  obtain ⟨hslash, hdot⟩ := not_or.mp hmark
  unfold directoryOf
  rw [h]
  simp [hslash, hdot]

theorem path_eq_ok (hb : m.base = none) (hp : m.path t repo = .ok p) :
    ∃ q, directoryOf t repo = .ok q ∧
      p = (q.child Settings.default.historyDirectory).child Settings.historyFile := by
  unfold path at hp
  rw [hb] at hp
  dsimp only at hp
  split at hp
  · cases hp
  · next q hq =>
    cases hp
    exact ⟨q, hq, rfl⟩

theorem path_of_directory {q : Path} (hb : m.base = none) (hq : directoryOf t repo = .ok q) :
    m.path t repo = .ok ((q.child Settings.default.historyDirectory).child Settings.historyFile) := by
  unfold path
  rw [hb, hq]

theorem mem_shortDigest {digest : String} {c : Char} (hd : shortDigest repo = .ok digest)
    (hc : c ∈ digest.toList) : c ≠ '/' ∧ c ≠ '.' := by
  unfold shortDigest Text.Sha256.ofString? at hd
  cases hbytes : Text.Utf8.encode? repo.toList with
  | error e =>
    rw [hbytes] at hd
    cases hd
  | ok bytes =>
    rw [hbytes] at hd
    have hdigest : String.ofList ((String.ofList (Text.Sha256.digest bytes)).toList.take 12) =
        digest := Except.ok.inj hd
    rw [← hdigest, String.toList_ofList, String.toList_ofList] at hc
    exact Text.mem_digest (List.mem_of_mem_take hc)

/-- The file under a directory that is named by a digest is reached by going down from the directory
of histories. -/
theorem digest_parts {digest : String} (hd : shortDigest repo = .ok digest) :
    ∃ parts, ".." ∉ parts ∧
      ((((Path.working.child Settings.default.historyDirectory).child digest).child
        Settings.default.historyDirectory).child Settings.historyFile) =
      ⟨Path.working.root, Settings.default.historyDirectory :: parts⟩ := by
  have hfile : Path.IsName Settings.historyFile := by decide
  have hdirectory : Path.IsName Settings.default.historyDirectory := by decide
  have hup : ".." ∉ (Path.ofString digest).parts :=
    Path.up_not_mem_parts fun hc => (mem_shortDigest hd hc).2 rfl
  have hroot : (Path.ofString digest).root = "" :=
    Path.rootOf_eq_empty fun hc => (mem_shortDigest hd (List.mem_of_mem_head? hc)).1 rfl
  refine ⟨(Path.ofString digest).parts ++
    [Settings.default.historyDirectory, Settings.historyFile], ?_, ?_⟩
  · rw [List.mem_append]
    rintro (h | h)
    · exact hup h
    · exact absurd h (by decide)
  · rw [Path.child_eq hfile, Path.child_eq hdirectory, Path.child_eq hdirectory]
    unfold Path.child Path.join
    rw [if_pos hroot]
    simp [Path.working]

/-- Saving does not make a name lead somewhere that leads nowhere and never goes up. -/
theorem holds_of_write_digest {digest : String} (hd : shortDigest repo = .ok digest)
    (hmark : ¬ IsMarked repo) (hup : ".." ∉ (Path.ofString repo).parts)
    (hw : write h t (((((Path.working.child Settings.default.historyDirectory).child digest).child
        Settings.default.historyDirectory).child Settings.historyFile)) = (u, .ok ())) :
    u.holds (.ofString repo) = t.holds (.ofString repo) := by
  obtain ⟨hslash, hdot⟩ := not_or.mp hmark
  obtain ⟨parts, hparts, hp⟩ := digest_parts hd
  rw [hp] at hw
  have hgrows := write_grows_under rfl (List.not_mem_cons_of_ne_of_not_mem (by decide) hparts) hw
  have hstart : t.start (.ofString repo) = t.working := by
    unfold Tree.start Path.isLocal
    have hroot : (Path.ofString repo).root = "" := Path.rootOf_eq_empty hslash
    rw [hroot]
    rfl
  refine Tree.holds_congr ?_
  rw [Tree.start_congr hgrows.working, hstart]
  refine Tree.walk_congr hup fun k => ?_
  rcases hgrows.places (t.working ++ (Path.ofString repo).parts.take k) with
    hsame | ⟨⟨rest, hunder⟩, -⟩
  · exact hsame
  · have hfirst : (Path.ofString repo).parts.head? = some Settings.default.historyDirectory := by
      have hhead := congrArg List.head? (List.append_cancel_left hunder)
      rw [List.head?_take] at hhead
      split at hhead
      · cases hhead
      · exact hhead
    exact absurd rfl (Path.head_parts hslash hdot _ hfirst)

/-- A history that was saved is looked for where it was written. -/
theorem path_of_write (hs : Steady m t repo) (hp : m.path t repo = .ok p)
    (hw : write h t p = (u, .ok ())) : m.path u repo = .ok p := by
  cases hb : m.base with
  | some base =>
    unfold path at hp ⊢
    rw [hb] at hp ⊢
    exact hp
  | none =>
    obtain ⟨q, hq, rfl⟩ := path_eq_ok hb hp
    refine path_of_directory hb ?_
    obtain ⟨there, hthere⟩ := holds_of_directoryOf hq
    by_cases hmark : IsMarked repo
    · rw [directoryOf_marked hmark hthere] at hq
      cases hq
      have hwritten := write_written h t
        (((Path.ofString repo).child Settings.default.historyDirectory).child Settings.historyFile)
      rw [hw] at hwritten
      obtain ⟨text, l, -, hl, -⟩ := hwritten
      have hwalk := Tree.walk_of_locate_child (by decide) hl
      rw [Path.child_eq (by decide)] at hwalk
      obtain ⟨base, hbase, -⟩ := Tree.walk_snoc (by decide) hwalk
      obtain ⟨found, hfound, -⟩ := Tree.walk_snoc (by decide) hbase
      obtain ⟨there', hthere'⟩ := holds_total hthere hfound
      exact directoryOf_marked hmark hthere'
    · cases there with
      | true =>
        have hparts : ((q.child Settings.default.historyDirectory).child
            Settings.historyFile).parts ≠ [] := by
          rw [Path.child_child (by decide) (by decide)]
          simp
        have hgrows : Grows (fun _ => True) t u :=
          write_grows hparts hw fun _ _ _ _ _ _ _ _ => trivial
        rw [directoryOf_congr ((hgrows.holds hthere).trans hthere.symm), hq]
      | false =>
        have hup : ".." ∉ (Path.ofString repo).parts := by
          rcases hs with hs | hs | hs | hs
          · rw [hb] at hs
            cases hs
          · rw [hthere] at hs
            cases hs
          · exact absurd hs hmark
          · exact hs
        have hdigest := hq
        rw [directoryOf_missing hmark hthere] at hdigest
        obtain ⟨digest, hd, rfl⟩ := map_eq_ok.mp hdigest
        rw [directoryOf_congr (holds_of_write_digest hd hmark hup hw), hq]

end Memory
end BuildRepair
