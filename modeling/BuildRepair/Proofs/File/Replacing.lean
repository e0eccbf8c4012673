import BuildRepair.File.Replacing
import BuildRepair.Proofs.Assoc
import BuildRepair.Proofs.File.Growth
import BuildRepair.Proofs.File.Sibling

/-
  Replacing a file as a whole either changes nothing or does what writing the file does
  (`replaceText_cases`). The temporary file is new, so taking it away gives the very tree there was
  before, whichever step failed; and it stands in the way of no path, since a path goes through
  directories only.
-/

namespace BuildRepair

namespace Tree

variable {t u : Tree} {p q : Path} {k l here : Place} {parts : List String} {s : String}
  {content : Content} {found : Option Entry} {e : FileError}

theorem put_put (t : Tree) (k : Place) (a b : Entry) : (t.put k a).put k b = t.put k b := by
  unfold put
  rw [Assoc.put_put]

theorem ne_nil_of_get?_eq_none (h : t.get? k = none) : k ≠ [] := by
  rintro rfl
  cases h

theorem erase_put (h : t.get? k = none) (a : Entry) : (t.put k a).erase k = t := by
  have hfind : Assoc.find? k t.entries = none := by
    unfold get? at h
    rwa [if_neg (ne_nil_of_get?_eq_none h)] at h
  unfold put erase
  rw [Assoc.erase_put_of_find?_eq_none hfind]

/-! ## A file that is in no path's way -/

/-- A walk in a tree with one more file is a walk in the tree, and ends at a directory there only if
it did so with the file. -/
theorem walk_of_put (hk : t.get? k ≠ some .directory)
    (hw : (t.put k (.file content)).walk here parts = .ok (l, found)) :
    ∃ found', t.walk here parts = .ok (l, found') ∧
      (found ≠ some .directory → found' ≠ some .directory) := by
  have hne : k ≠ [] := by
    rintro rfl
    exact hk rfl
  -- a directory on the way is not the new file
  have hback {j : Place} (hd : (t.put k (.file content)).get? j = some .directory) :
      t.get? j = some .directory := by
    rw [get?_put _ _ _ _ hne] at hd
    split at hd
    · cases hd
    · exact hd
  simp only [walk_eq_ok] at hw ⊢
  induction parts generalizing here with
  | nil =>
    cases hw with
    | nil hl =>
      refine ⟨_, .nil rfl, ?_⟩
      rw [get?_put _ _ _ _ hne] at hl
      split at hl
      · next h => exact fun _ => h ▸ hk
      · rw [hl]
        exact id
  | cons name rest ih =>
    cases hw with
    | up hd hrest =>
      obtain ⟨found', hw', hdir⟩ := ih hrest
      exact ⟨found', .up (hback hd) hw', hdir⟩
    | down hd hup hshort hrest =>
      obtain ⟨found', hw', hdir⟩ := ih hrest
      exact ⟨found', .down (hback hd) hup hshort hw', hdir⟩

/-! ## The temporary file -/

theorem create_eq_ok (h : t.create p = .ok u) :
    ∃ l, t.locate p = .ok (l, none) ∧ u = t.put l (.file (.text "")) := by
  unfold create at h
  split at h
  · cases h
  · cases h
  · next l hl =>
    cases h
    exact ⟨l, hl, rfl⟩

theorem createBeside_eq_ok {limit : Nat} (h : t.createBeside p limit = .ok (u, q)) :
    ∃ mark l, q = p.beside mark ∧ t.locate q = .ok (l, none) ∧
      u = t.put l (.file (.text "")) := by
  induction limit with
  | zero => cases h
  | succ mark ih =>
    unfold createBeside at h
    split at h
    · next hc =>
      cases h
      obtain ⟨l, hl, hu⟩ := create_eq_ok hc
      exact ⟨mark, l, rfl, hl, hu⟩
    · exact ih h
    · cases h

/-- Where a new file was written. -/
theorem locate_put (hl : t.locate q = .ok (k, none)) (content : Content) :
    (t.put k (.file content)).locate q = .ok (k, some (.file content)) := by
  have hk : t.get? k = none := (locate_get? hl).symm
  exact locate_of_walk hl (walk_put (by simp [hk]) (walk_of_locate hl))

/-- A new file that is discarded leaves no trace. -/
theorem discard_put (hl : t.locate q = .ok (k, none)) (content : Content) :
    (t.put k (.file content)).discard q = t := by
  have hk : t.get? k = none := (locate_get? hl).symm
  unfold discard
  rw [remove_eq_ok.mpr ⟨k, content, locate_put hl content, rfl⟩]
  exact erase_put hk _

/-- A new file that is moved leaves no trace where it was, and writes what it is moved to. -/
theorem move_put (hl : t.locate q = .ok (k, none))
    (hm : (t.put k (.file (.text s))).move q p = .ok u) : t.writeText p s = .ok u := by
  have hk : t.get? k = none := (locate_get? hl).symm
  unfold move at hm
  rw [locate_put hl] at hm
  dsimp only at hm
  split at hm
  · cases hm
  · cases hm
  · next l found hdir hp =>
    cases hm
    obtain ⟨found', hw, hdir'⟩ := walk_of_put (by simp [hk]) (walk_of_locate hp)
    have hp' : t.locate p = .ok (l, found') := locate_of_walk hp hw
    have hnot : found' ≠ some .directory := hdir' hdir
    exact writeText_eq_ok.mpr ⟨l, found', hp', hnot, by rw [erase_put hk]⟩

/-! ## Replacing -/

/-- Replacing a file fails and changes nothing, or does what writing the file does. -/
theorem replaceText_cases (t : Tree) (p : Path) (s : String) :
    (∃ e, t.replaceText p s = (t, .error e)) ∨
      ∃ u, t.replaceText p s = (u, .ok ()) ∧ t.writeText p s = .ok u := by
  unfold replaceText
  split
  · exact .inl ⟨_, rfl⟩
  · next made q hmade =>
    obtain ⟨-, k, -, hl, rfl⟩ := createBeside_eq_ok hmade
    have hwrite : (t.put k (.file (.text ""))).writeText q s = .ok (t.put k (.file (.text s))) :=
      writeText_eq_ok.mpr ⟨k, _, locate_put hl _, by simp, (put_put ..).symm⟩
    rw [hwrite]
    dsimp only
    split
    · rw [discard_put hl]
      exact .inl ⟨_, rfl⟩
    · next hm => exact .inr ⟨_, rfl, move_put hl hm⟩

theorem replaceText_ok (h : t.replaceText p s = (u, .ok ())) : t.writeText p s = .ok u := by
  rcases replaceText_cases t p s with ⟨e, he⟩ | ⟨v, hv, hw⟩
  · cases he.symm.trans h
  · cases hv.symm.trans h
    exact hw

/-- Replacing a file succeeds where a temporary one can be made, unless a directory is in its place. -/
theorem replaceText_of_made (hl : t.locate p = .ok (l, found)) (hdir : found ≠ some .directory)
    (hmade : t.createBeside p (t.entries.length + 1) = .ok (u, q)) (s : String) :
    ∃ v, t.replaceText p s = (v, .ok ()) := by
  obtain ⟨-, k, -, hfree, rfl⟩ := createBeside_eq_ok hmade
  have hk : t.get? k = none := (locate_get? hfree).symm
  have hne : k ≠ [] := ne_nil_of_get?_eq_none hk
  have hwrite : (t.put k (.file (.text ""))).writeText q s = .ok (t.put k (.file (.text s))) :=
    writeText_eq_ok.mpr ⟨k, _, locate_put hfree _, by simp, (put_put ..).symm⟩
  have hkeeps : KeepsDirectories t (t.put k (.file (.text s))) := by
    refine ⟨rfl, fun j hj => ?_⟩
    rw [get?_put _ _ _ _ hne, if_neg, hj]
    rintro rfl
    cases hk.symm.trans hj
  -- the temporary file is no directory, wherever it stands
  have hnot : (t.put k (.file (.text s))).get? l ≠ some .directory := by
    rw [get?_put _ _ _ _ hne]
    split
    · simp
    · rwa [← show found = t.get? l from locate_get? hl]
  have hp := locate_of_walk hl (hkeeps.walk (walk_of_locate hl))
  unfold replaceText move
  rw [hmade]
  dsimp only
  rw [hwrite]
  dsimp only
  rw [locate_put hfree]
  dsimp only
  rw [hp]
  generalize (t.put k (.file (.text s))).get? l = there at hnot
  match there with
  | none => exact ⟨_, rfl⟩
  | some (.file _) => exact ⟨_, rfl⟩
  | some .directory => exact absurd rfl hnot

/-- The first temporary name is taken if it can be looked up and is free. -/
theorem replaceText_of_free (hfile : t.HasFile p)
    (hfree : t.locate (p.beside t.entries.length) = .ok (k, none)) (s : String) :
    ∃ u, t.replaceText p s = (u, .ok ()) := by
  obtain ⟨l, content, hl⟩ := hfile
  have hmade : t.createBeside p (t.entries.length + 1) =
      .ok (t.put k (.file (.text "")), p.beside t.entries.length) := by
    unfold createBeside create
    rw [hfree]
  exact replaceText_of_made hl (by simp) hmade s

theorem replaceText_error (h : t.replaceText p s = (u, .error e)) : u = t := by
  rcases replaceText_cases t p s with ⟨e, he⟩ | ⟨v, hv, hw⟩
  · cases he.symm.trans h
    rfl
  · cases hv.symm.trans h

end Tree

/-! ## What makes replacing fail -/

/-- The name of a temporary file beside a file. -/
def Path.temporary (name : String) (mark : Nat) : String :=
  "." ++ name ++ "." ++ String.ofList (Text.hexText 8 mark) ++ ".tmp"

theorem Path.mem_temporary {name : String} {mark : Nat} {c : Char}
    (h : c ∈ (temporary name mark).toList) : Text.PlainChar c ∨ c ∈ name.toList := by
  have hpoint : Text.Plain ".".toList := by decide
  have hending : Text.Plain ".tmp".toList := by decide
  simp only [temporary, String.toList_append, String.toList_ofList, List.mem_append] at h
  rcases h with (((h | h) | h) | h) | h
  · exact .inl (hpoint c h)
  · exact .inr h
  · exact .inl (hpoint c h)
  · exact .inl (Text.plain_hexText 8 mark c h)
  · exact .inl (hending c h)

theorem Path.plain_temporary {name : String} (hname : Text.Plain name.toList) (mark : Nat) :
    Text.Plain (temporary name mark).toList :=
  fun c hc => (mem_temporary hc).elim id (hname c)

theorem Path.IsPlain.beside {p : Path} (h : p.IsPlain) (mark : Nat) : (p.beside mark).IsPlain := by
  refine ⟨h.root, ?_⟩
  have hname : Text.Plain (p.parts.getLast?.getD "").toList := by
    cases hlast : p.parts.getLast? with
    | none => decide
    | some name => exact h.parts name (List.mem_of_getLast? hlast)
  intro part hpart
  rcases List.mem_append.mp hpart with hpart | hpart
  · exact h.parts part (List.dropLast_subset _ hpart)
  · rw [List.mem_singleton.mp hpart]
    exact plain_temporary hname mark

namespace Tree

variable {t u : Tree} {p q : Path} {s : String} {e : FileError}

theorem create_system (hp : p.IsPlain) (h : t.create p = .error e) : e.IsSystem := by
  unfold create at h
  split at h
  · next hl =>
    cases h
    exact locate_system hp hl
  · cases h
    exact ⟨_, _, rfl⟩
  · cases h

theorem createBeside_system {limit : Nat} (hp : p.IsPlain)
    (h : t.createBeside p limit = .error e) : e.IsSystem := by
  induction limit with
  | zero =>
    cases h
    exact ⟨_, _, rfl⟩
  | succ mark ih =>
    unfold createBeside at h
    split at h
    · cases h
    · exact ih h
    · next hc =>
      cases h
      exact create_system (hp.beside mark) hc

theorem move_system (hp : p.IsPlain) (hq : q.IsPlain) (h : t.move p q = .error e) :
    e.IsSystem := by
  unfold move at h
  split at h
  · next hl =>
    cases h
    exact locate_system hp hl
  · cases h
    exact ⟨_, _, rfl⟩
  · cases h
    exact ⟨_, _, rfl⟩
  · split at h
    · next hl =>
      cases h
      exact locate_system hq hl
    · cases h
      exact ⟨_, _, rfl⟩
    · cases h

theorem replaceText_system (hp : p.IsPlain) (h : (t.replaceText p s).2 = .error e) :
    e.IsSystem := by
  unfold replaceText at h
  split at h
  · next hc =>
    cases h
    exact createBeside_system hp hc
  · next hc =>
    obtain ⟨mark, -, rfl, -⟩ := createBeside_eq_ok hc
    have hq := hp.beside mark
    split at h
    · next hw =>
      cases h
      exact writeText_system hq hw
    · split at h
      · next hm =>
        cases h
        exact move_system hq hp hm
      · cases h

end Tree

end BuildRepair
