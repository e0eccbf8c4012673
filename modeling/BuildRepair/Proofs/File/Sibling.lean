import BuildRepair.Proofs.File.Place
import BuildRepair.Proofs.File.Plain
import BuildRepair.Proofs.Text.Lines

/-
  Paths side by side. Whether a path can be followed depends on how it is written and on the walk
  along it, and two paths that differ in their last part share both but for that part. So a path
  beside one that leads somewhere can be looked up too, if it is not too long
  (`locate_sibling_of_size`), which it is not if it is no longer than one that could be looked up
  (`locate_sibling`), also after files were taken away (`KeepsDirectories`).
-/

namespace BuildRepair

/-! ## How a path is written -/

namespace Path

variable {p : Path} {a b : String}

/-- A name without a slash is a single part, unless it is left out or leads upwards. -/
theorem isName_of_not_mem {name : String} (hslash : '/' ∉ name.toList) (hne : name ≠ "")
    (hpoint : name ≠ ".") (hup : name ≠ "..") : IsName name := by
  have hroot : rootOf name.toList = "" :=
    rootOf_eq_empty fun h => hslash (List.mem_of_mem_head? h)
  refine ⟨?_, hup⟩
  unfold ofString
  rw [hroot, Text.splitOn_of_not_mem hslash]
  simp [hne, hpoint]

theorem IsName.slash {name : String} (h : IsName name) : '/' ∉ name.toList := by
  have hparts : name ∈ (ofString name).parts := by
    rw [h.1]
    exact List.mem_singleton_self name
  obtain ⟨piece, hpiece, rfl⟩ := List.mem_map.mp (List.mem_filter.mp hparts).1
  rw [String.toList_ofList]
  exact Text.not_mem_of_mem_splitOn hpiece

/-- The writing of a path is that of the directory followed by the last part. -/
theorem exists_stem (p : Path) :
    ∃ stem : String, ∀ name, IsName name → (p.child name).text = stem ++ name := by
  by_cases hbare : p.parts = []
  · refine ⟨p.root, fun name hname => ?_⟩
    unfold text
    rw [child_eq hname, if_neg (by simp), hbare, List.nil_append, String.intercalate_singleton]
  · refine ⟨p.root ++ (String.intercalate "/" p.parts ++ "/"), fun name hname => ?_⟩
    unfold text
    rw [child_eq hname, if_neg (by simp), String.intercalate_append_of_ne_nil hbare (by simp),
      String.intercalate_singleton, ← String.append_assoc]

theorem IsSpelled.sibling (ha : IsName a) (hb : IsName b)
    (hchars : ∀ c ∈ b.toList, Text.PlainChar c ∨ c ∈ a.toList) (h : (p.child a).IsSpelled) :
    (p.child b).IsSpelled := by
  constructor
  · obtain ⟨stem, hstem⟩ := exists_stem p
    have hhalves := Text.halvesIn?_eq_none_iff.mp h.halves
    rw [hstem a ha, String.toList_append] at hhalves
    rw [hstem b hb, String.toList_append, Text.halvesIn?_eq_none_iff]
    intro c hc
    rcases List.mem_append.mp hc with hc | hc
    · exact hhalves c (List.mem_append_left _ hc)
    rcases hchars c hc with hplain | hc
    · have hnone : Text.half? c = none := by
        have := hplain.1
        unfold Text.isHalf at this
        simpa using this
      rw [hnone]
      rfl
    · exact hhalves c (List.mem_append_right _ hc)
  · have hnull := h.null
    rw [child_eq ha, List.any_append, Bool.or_eq_false_iff, List.any_cons, List.any_nil,
      Bool.or_false] at hnull
    rw [child_eq hb, List.any_append, hnull.1, Bool.false_or, List.any_cons, List.any_nil,
      Bool.or_false]
    rw [Bool.eq_false_iff]
    intro hc
    rcases hchars _ (List.contains_iff_mem.mp hc) with hplain | hc
    · exact hplain.2 rfl
    · exact absurd (List.contains_iff_mem.mpr hc) (by rw [hnull.2]; decide)

end Path

namespace Tree

variable {t u : Tree} {p : Path} {l here : Place} {parts : List String} {a b : String}
  {found : Place × Option Entry}

/-- A path that could be looked up is not too long, if that is all there could be against it. -/
theorem text_le_of_holds (hspelled : p.IsSpelled) {there : Bool} (h : t.holds p = .ok there) :
    p.text.utf8ByteSize ≤ pathLimit := by
  rw [← Nat.not_lt]
  intro hlong
  have hl : t.locate p = .error (.system .nameTooLong p.text) := by
    unfold locate
    rw [hspelled.halves]
    dsimp only
    rw [hspelled.null, if_neg (by decide), if_pos hlong]
  unfold holds look at h
  rw [hl] at h
  cases h

theorem isDirectory_eq_true :
    t.isDirectory p = .ok true ↔ ∃ place, t.locate p = .ok (place, some .directory) := by
  unfold isDirectory look
  split
  · next l e hl => simp [Except.map, hl]
  · next hl => simp [Except.map, hl]
  · next hl => simp [Except.map, hl]

/-! ## Walks side by side -/

/-- Every directory of `t` is one of `u`. -/
structure KeepsDirectories (t u : Tree) : Prop where
  working : u.working = t.working
  directories : ∀ l, t.get? l = some .directory → u.get? l = some .directory

theorem KeepsDirectories.refl (t : Tree) : KeepsDirectories t t := ⟨rfl, fun _ => id⟩

theorem remove_keepsDirectories (h : t.remove p = .ok u) : KeepsDirectories t u := by
  obtain ⟨k, content, hk, rfl⟩ := remove_eq_ok.mp h
  have hfile : t.get? k = some (.file content) := (locate_get? hk).symm
  refine ⟨rfl, fun l hl => ?_⟩
  rw [get?_erase, if_neg, hl]
  rintro ⟨rfl, -⟩
  cases hfile.symm.trans hl

/-- A walk ends where it ended in a tree that keeps the directories. -/
theorem KeepsDirectories.walk (hd : KeepsDirectories t u) {e : Option Entry}
    (hw : t.walk here parts = .ok (l, e)) : u.walk here parts = .ok (l, u.get? l) := by
  simp only [walk_eq_ok] at hw ⊢
  generalize hfound : (l, e) = found at hw
  induction hw with
  | nil _ =>
    cases hfound
    exact .nil rfl
  | up hdir _ ih => exact .up (hd.directories _ hdir) (ih hfound)
  | down hdir hup hshort _ ih => exact .down (hd.directories _ hdir) hup hshort (ih hfound)

theorem walk_sibling (hd : KeepsDirectories t u) (ha : a ≠ "..") (hb : b ≠ "..")
    (hshort : b.utf8ByteSize ≤ nameLimit) (hw : t.walk here (parts ++ [a]) = .ok found) :
    ∃ found', u.walk here (parts ++ [b]) = .ok found' := by
  simp only [walk_eq_ok] at hw ⊢
  induction parts generalizing here with
  | nil =>
    cases hw with
    | up _ _ => exact absurd rfl ha
    | down hdir _ _ _ => exact ⟨_, .down (hd.directories _ hdir) hb hshort (.nil rfl)⟩
  | cons first rest ih =>
    cases hw with
    | up hdir hrest =>
      obtain ⟨found', hw'⟩ := ih hrest
      exact ⟨found', .up (hd.directories _ hdir) hw'⟩
    | down hdir hup hshort' hrest =>
      obtain ⟨found', hw'⟩ := ih hrest
      exact ⟨found', .down (hd.directories _ hdir) hup hshort' hw'⟩

/-- A path beside one that leads somewhere leads somewhere too, unless it is too long. -/
theorem locate_sibling_of_size (hd : KeepsDirectories t u) (ha : Path.IsName a)
    (hb : Path.IsName b) (hchars : ∀ c ∈ b.toList, Text.PlainChar c ∨ c ∈ a.toList)
    (hshort : b.utf8ByteSize ≤ nameLimit) (hsize : (p.child b).text.utf8ByteSize ≤ pathLimit)
    (hl : t.locate (p.child a) = .ok found) :
    ∃ found', u.locate (p.child b) = .ok found' := by
  obtain ⟨hspelled, -⟩ := locate_eq_ok.mp hl
  obtain ⟨found', hfound⟩ := walk_sibling hd ha.2 hb.2 hshort (walk_of_locate_child ha hl)
  refine ⟨found', locate_eq_ok.mpr ⟨hspelled.sibling ha hb hchars, hsize, ?_⟩⟩
  rw [start_congr hd.working, Path.child_eq hb]
  exact hfound

/-- It is not too long if a longer one could be looked up. -/
theorem locate_sibling {longer : String} {there : Bool} (hd : KeepsDirectories t u)
    (ha : Path.IsName a) (hb : Path.IsName b) (hlonger : Path.IsName longer)
    (hplain : Text.Plain b.toList) (hplain' : Text.Plain longer.toList)
    (hshort : b.utf8ByteSize ≤ nameLimit) (hle : b.utf8ByteSize ≤ longer.utf8ByteSize)
    (hfile : t.HasFile (p.child a)) (hholds : t.holds (p.child longer) = .ok there) :
    ∃ found, u.locate (p.child b) = .ok found := by
  obtain ⟨l, content, hl⟩ := hfile
  have hsize : (p.child b).text.utf8ByteSize ≤ pathLimit := by
    obtain ⟨hspelled, -⟩ := locate_eq_ok.mp hl
    have hlong := text_le_of_holds
      (hspelled.sibling ha hlonger fun c hc => .inl (hplain' c hc)) hholds
    obtain ⟨stem, hstem⟩ := Path.exists_stem p
    rw [hstem longer hlonger, String.utf8ByteSize_append] at hlong
    rw [hstem b hb, String.utf8ByteSize_append]
    omega
  exact locate_sibling_of_size hd ha hb (fun c hc => .inl (hplain c hc)) hshort hsize hl

end Tree

end BuildRepair
