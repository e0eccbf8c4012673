import BuildRepair.File.Tree

/-
  Where paths lead in trees that change. `Walks` says step by step when a walk ends somewhere
  (`walk_eq_ok`). It ends at the place it says (`walk_get?`). A path leads to where the walk along
  it ends, if nothing is wrong with its writing (`locate_eq_ok`), so one whose last part is a plain
  name leads to a place of that name (`locate_child`).

  `Within names t u`: the tree `u` has nothing that `t` did not have, save files with one of the
  names. Writing a file of such a name and taking anything away stay within (`writeText_within`,
  `remove_within`, `prune_within`). A path under another name then leads in `u` only where it led
  in `t` (`Within.locate`); so a file that was removed never comes back (`not_hasFile_remove`).

  `SameFiles t u`: only directories differ. Making directories keeps the files
  (`makeDirectories_sameFiles`), and writing a text changes the file at one place
  (`writeText_spec`).
-/

namespace BuildRepair

/-! ## Plain names -/

/-- A name that is a single part of a path and leads downwards. -/
def Path.IsName (name : String) : Prop := Path.ofString name = ⟨"", [name]⟩ ∧ name ≠ ".."

instance (name : String) : Decidable (Path.IsName name) := by
  unfold Path.IsName
  infer_instance

/-- A path in whose writing the system finds nothing to refuse but perhaps its length. -/
structure Path.IsSpelled (p : Path) : Prop where
  halves : Text.Utf8.halvesIn? Tree.isByteHalf p.text.toList = none
  null : p.parts.any (·.toList.contains (Char.ofNat 0)) = false

theorem Path.child_eq {name : String} (h : IsName name) (p : Path) :
    p.child name = ⟨p.root, p.parts ++ [name]⟩ := by
  unfold child
  rw [h.1]
  rfl

theorem Path.child_child {a b : String} (ha : IsName a) (hb : IsName b) (p : Path) :
    (p.child a).child b = ⟨p.root, p.parts ++ [a, b]⟩ := by
  rw [child_eq hb, child_eq ha, List.append_assoc]
  rfl

namespace Tree

variable {t u : Tree} {p : Path} {k l here : Place} {parts names : List String} {e : Entry}
  {found : Place × Option Entry} {found? : Option Entry} {name : String} {content : Content}

/-! ## Walks -/

/-- A walk that ends somewhere. It goes up and down from directories only. -/
inductive Walks (t : Tree) : Place → List String → Place × Option Entry → Prop
  | nil {here : Place} {e : Option Entry} (he : t.get? here = e) : Walks t here [] (here, e)
  | up {here : Place} {rest : List String} {found : Place × Option Entry}
      (hd : t.get? here = some .directory) (h : Walks t here.dropLast rest found) :
      Walks t here (".." :: rest) found
  | down {here : Place} {name : String} {rest : List String} {found : Place × Option Entry}
      (hd : t.get? here = some .directory) (hup : name ≠ "..")
      (hshort : name.utf8ByteSize ≤ nameLimit) (h : Walks t (here ++ [name]) rest found) :
      Walks t here (name :: rest) found

theorem walk_eq_ok : t.walk here parts = .ok found ↔ t.Walks here parts found := by
  constructor
  · intro h
    induction parts generalizing here with
    | nil =>
      cases h
      exact .nil rfl
    | cons name rest ih =>
      unfold walk at h
      split at h
      · cases h
      · cases h
      · next hd =>
        split at h
        · next hup =>
          rw [hup]
          exact .up hd (ih h)
        · next hup =>
          split at h
          · cases h
          · next hlong => exact .down hd hup (Nat.not_lt.mp hlong) (ih h)
  · intro h
    induction h with
    | nil he => rw [walk, he]
    | up hd _ ih =>
      rw [walk, hd]
      dsimp only
      rw [if_pos rfl, ih]
    | down hd hup hshort _ ih =>
      rw [walk, hd]
      dsimp only
      rw [if_neg hup, if_neg (Nat.not_lt.mpr hshort), ih]

theorem walk_get? (h : t.walk here parts = .ok found) : found.2 = t.get? found.1 := by
  rw [walk_eq_ok] at h
  induction h with
  | nil he => exact he.symm
  | up _ _ ih => exact ih
  | down _ _ _ _ ih => exact ih

/-- A walk whose last name leads downwards ends one place below the walk without it. -/
theorem walk_snoc (hn : name ≠ "..") (h : t.walk here (parts ++ [name]) = .ok found) :
    ∃ base, t.walk here parts = .ok (base, some .directory) ∧ found.1 = base ++ [name] := by
  simp only [walk_eq_ok] at h ⊢
  induction parts generalizing here with
  | nil =>
    cases h with
    | up _ _ => exact absurd rfl hn
    | down hd _ _ hrest =>
      cases hrest
      exact ⟨here, .nil hd, rfl⟩
  | cons first rest ih =>
    cases h with
    | up hd hrest =>
      obtain ⟨base, hbase, hfound⟩ := ih hrest
      exact ⟨base, .up hd hbase, hfound⟩
    | down hd hup hshort hrest =>
      obtain ⟨base, hbase, hfound⟩ := ih hrest
      exact ⟨base, .down hd hup hshort hbase, hfound⟩

/-- A path leads somewhere if its writing is one the system takes and the walk along it ends. -/
theorem locate_eq_ok : t.locate p = .ok found ↔
    p.IsSpelled ∧ p.text.utf8ByteSize ≤ pathLimit ∧ t.walk (t.start p) p.parts = .ok found := by
  constructor
  · intro h
    unfold locate at h
    split at h
    · cases h
    · next hhalves =>
      split at h
      · cases h
      · next hnull =>
        split at h
        · cases h
        · next hlong =>
          split at h
          · next hw =>
            cases h
            exact ⟨⟨hhalves, by simpa using hnull⟩, Nat.not_lt.mp hlong, hw⟩
          · cases h
  · rintro ⟨hspelled, hlong, hw⟩
    unfold locate
    rw [hspelled.halves]
    dsimp only
    rw [hspelled.null, if_neg (by decide), if_neg (Nat.not_lt.mpr hlong), hw]

theorem walk_of_locate (h : t.locate p = .ok found) : t.walk (t.start p) p.parts = .ok found :=
  (locate_eq_ok.mp h).2.2

/-- Whether a path can be followed at all does not depend on the tree. -/
theorem locate_of_walk (h : t.locate p = .ok found) {found' : Place × Option Entry}
    (hw : u.walk (u.start p) p.parts = .ok found') : u.locate p = .ok found' := by
  obtain ⟨hspelled, hlong, -⟩ := locate_eq_ok.mp h
  exact locate_eq_ok.mpr ⟨hspelled, hlong, hw⟩

theorem start_congr (h : u.working = t.working) (p : Path) : u.start p = t.start p := by
  unfold start
  rw [h]

/-- A path to a name leads from where the path without it leads. -/
theorem walk_of_locate_child (hn : Path.IsName name) (h : t.locate (p.child name) = .ok found) :
    t.walk (t.start p) (p.parts ++ [name]) = .ok found := by
  have hw := walk_of_locate h
  rwa [Path.child_eq hn] at hw

theorem locate_get? (h : t.locate p = .ok found) : found.2 = t.get? found.1 :=
  walk_get? (walk_of_locate h)

theorem locate_ne_nil (h : t.locate p = .ok (l, some (.file content))) : l ≠ [] := by
  rintro rfl
  cases locate_get? h

theorem locate_child (hn : Path.IsName name) (h : t.locate (p.child name) = .ok found) :
    found.1.getLast? = some name := by
  obtain ⟨base, -, hfound⟩ := walk_snoc hn.2 (walk_of_locate_child hn h)
  rw [hfound, List.getLast?_concat]

/-! ## Trees after a change -/

theorem writeText_eq_ok {text : String} : t.writeText p text = .ok u ↔
    ∃ l found?, t.locate p = .ok (l, found?) ∧ found? ≠ some .directory ∧
      u = t.put l (.file (.text text)) := by
  unfold writeText
  constructor
  · intro h
    split at h
    · cases h
    · cases h
    · next hdir hl =>
      cases h
      exact ⟨_, _, hl, hdir, rfl⟩
  · rintro ⟨l, found?, hl, hdir, rfl⟩
    rw [hl]
    split
    · next h => cases h
    · next h =>
      cases h
      exact absurd rfl hdir
    · next h =>
      cases h
      rfl

theorem remove_eq_ok : t.remove p = .ok u ↔
    ∃ l content, t.locate p = .ok (l, some (.file content)) ∧ u = t.erase l := by
  unfold remove
  constructor
  · intro h
    split at h
    · cases h
    · cases h
    · cases h
    · next hl =>
      cases h
      exact ⟨_, _, hl, rfl⟩
  · rintro ⟨l, content, hl, rfl⟩
    rw [hl]

theorem makeDirectory_eq_ok : t.makeDirectory p = .ok u ↔
    ∃ l, t.locate p = .ok (l, none) ∧ p.parts ≠ [] ∧ u = t.put l .directory := by
  unfold makeDirectory
  constructor
  · intro h
    split at h
    · cases h
    · cases h
    · next hl =>
      split at h
      · cases h
      · next hparts =>
        cases h
        exact ⟨_, hl, hparts, rfl⟩
  · rintro ⟨l, hl, hparts, rfl⟩
    rw [hl]
    exact if_neg hparts

/-- A directory that is there already changes nothing. -/
theorem orExisting_tree (t : Tree) (p : Path) (e : FileError) : (t.orExisting p e).1 = t := by
  unfold orExisting
  split <;> rfl

theorem get?_erase (t : Tree) (k l : Place) :
    (t.erase k).get? l = if k = l ∧ l ≠ [] then none else t.get? l := by
  unfold get? erase Assoc.erase
  rw [Assoc.find?_filter (fun j => !(j == k)) (by simp_all)]
  by_cases hl : l = []
  · simp [hl]
  · by_cases hk : k = l
    · simp [hl, hk]
    · simp [hl, hk, Ne.symm hk]

theorem get?_prune_of_some (h : (t.prune k).get? l = some e) : t.get? l = some e := by
  unfold get? prune at h
  unfold get?
  by_cases hl : l = []
  · rwa [if_pos hl] at h ⊢
  · rw [if_neg hl, Assoc.find?_filter (fun j => !k.isPrefixOf j) (by simp_all)] at h
    rw [if_neg hl]
    split at h
    · exact h
    · cases h

/-- What is kept where one directory is made on the way to a path is kept where all of them are. -/
theorem makeDirectoriesTo_induction {motive : Tree → Prop} (p : Path) (depth : Nat)
    (ht : motive t) (hstep : ∀ (t u : Tree) (k : Nat), motive t →
      t.makeDirectory ⟨p.root, p.parts.take k⟩ = .ok u → motive u) :
    motive (t.makeDirectoriesTo p depth).1 := by
  induction depth generalizing t p with
  | zero => exact ht
  | succ depth ih =>
    have hself {t u : Tree} (ht : motive t) (hm : t.makeDirectory p = .ok u) : motive u := by
      refine hstep t u p.parts.length ht ?_
      rw [List.take_length]
      exact hm
    have hparent : motive (t.makeDirectoriesTo p.parent depth).1 := by
      refine ih p.parent ht ?_
      intro t u k ht hm
      refine hstep t u (min k (p.parts.length - 1)) ht ?_
      unfold Path.parent at hm
      rw [List.dropLast_eq_take, List.take_take] at hm
      exact hm
    unfold makeDirectoriesTo
    split
    · next hm => exact hself ht hm
    · split
      · exact ht
      · split
        · next hup =>
          rw [hup] at hparent
          exact hparent
        · next hup =>
          rw [hup] at hparent
          split
          · next hm => exact hself hparent hm
          · rw [orExisting_tree]
            exact hparent
    · rw [orExisting_tree]
      exact ht
    · exact ht

/-! ## Trees that gain nothing but files with some names -/

/-- Whether an entry at a place is a file with one of some names. -/
def IsFileNamed (names : List String) (l : Place) : Entry → Prop
  | .file _ => ∃ name ∈ names, l.getLast? = some name
  | .directory => False

/-- Every entry of `u` stands in `t` too, or is a file with one of some names. -/
structure Within (names : List String) (t u : Tree) : Prop where
  working : u.working = t.working
  entries : ∀ l e, u.get? l = some e → t.get? l = some e ∨ IsFileNamed names l e

theorem Within.refl (names : List String) (t : Tree) : Within names t t := ⟨rfl, fun _ _ => .inl⟩

theorem Within.trans {v : Tree} (h : Within names t u) (h' : Within names u v) :
    Within names t v := by
  refine ⟨h'.working.trans h.working, fun l e he => ?_⟩
  rcases h'.entries l e he with he | hf
  · exact h.entries l e he
  · exact .inr hf

theorem erase_within (names : List String) (t : Tree) (k : Place) : Within names t (t.erase k) := by
  refine ⟨rfl, fun l e he => ?_⟩
  rw [get?_erase] at he
  split at he
  · cases he
  · exact .inl he

theorem prune_within (names : List String) (t : Tree) (k : Place) : Within names t (t.prune k) :=
  ⟨rfl, fun _ _ he => .inl (get?_prune_of_some he)⟩

theorem put_within (hn : name ∈ names) (hl : k.getLast? = some name) (t : Tree)
    (content : Content) : Within names t (t.put k (.file content)) := by
  have hk : k ≠ [] := by
    rintro rfl
    cases hl
  refine ⟨rfl, fun l e he => ?_⟩
  rw [get?_put _ _ _ _ hk] at he
  split at he
  · next h =>
    cases he
    subst h
    exact .inr ⟨name, hn, hl⟩
  · exact .inl he

theorem writeText_within {text : String} (hname : Path.IsName name) (hn : name ∈ names)
    (h : t.writeText (p.child name) text = .ok u) : Within names t u := by
  obtain ⟨l, found?, hl, -, rfl⟩ := writeText_eq_ok.mp h
  exact put_within hn (locate_child hname hl) _ _

theorem remove_within (names : List String) (h : t.remove p = .ok u) : Within names t u := by
  obtain ⟨l, content, -, rfl⟩ := remove_eq_ok.mp h
  exact erase_within _ _ _

theorem Within.walk (h : Within names t u) (hw : u.walk here parts = .ok (l, some e)) :
    t.walk here parts = .ok (l, some e) ∨ IsFileNamed names l e := by
  have hends := walk_get? hw
  rw [walk_eq_ok] at hw ⊢
  rcases h.entries l e hends.symm with hl | hfile
  · refine .inl ?_
    -- a directory on the way was there before
    have hback {k : Place} (hd : u.get? k = some .directory) : t.get? k = some .directory :=
      (h.entries k _ hd).resolve_right id
    induction parts generalizing here with
    | nil =>
      cases hw
      exact .nil hl
    | cons name rest ih =>
      cases hw with
      | up hd hrest => exact .up (hback hd) (ih hrest)
      | down hd hup hshort hrest => exact .down (hback hd) hup hshort (ih hrest)
  · exact .inr hfile

/-- A path under another name leads only where it led before. -/
theorem Within.locate (h : Within names t u) (hname : Path.IsName name) (hn : name ∉ names)
    (hu : u.locate (p.child name) = .ok (l, some e)) :
    t.locate (p.child name) = .ok (l, some e) := by
  rcases h.walk (walk_of_locate hu) with hw | hf
  · rw [start_congr h.working] at hw
    exact locate_of_walk hu hw
  · cases e with
    | directory => exact hf.elim
    | file content =>
      obtain ⟨other, ho, hl⟩ := hf
      have hl' : l.getLast? = some name := locate_child hname hu
      rw [hl] at hl'
      cases hl'
      exact absurd ho hn

/-- Whether every file of `u` with a name is a file of `t`, with the same content. -/
def NoneWritten (name : String) (t u : Tree) : Prop :=
  ∀ l content, l.getLast? = some name → u.get? l = some (.file content) →
    t.get? l = some (.file content)

theorem Within.noneWritten (h : Within names t u) (hn : name ∉ names) : NoneWritten name t u := by
  intro l content hl hu
  rcases h.entries l _ hu with ht | ⟨other, ho, hl'⟩
  · exact ht
  · cases hl.symm.trans hl'
    exact absurd ho hn

/-! ## Files that are there -/

theorem firstThere_some {α : Type} {check : α → Except FileError Bool} {a : α} {as : List α}
    (h : firstThere check as = .ok (some a)) : a ∈ as ∧ check a = .ok true := by
  induction as with
  | nil => cases h
  | cons first rest ih =>
    unfold firstThere at h
    split at h
    · cases h
    · next hc =>
      cases h
      exact ⟨List.mem_cons_self .., hc⟩
    · obtain ⟨hm, hc⟩ := ih h
      exact ⟨List.mem_cons_of_mem _ hm, hc⟩

/-- Whether a path leads to a file. -/
def HasFile (t : Tree) (p : Path) : Prop := ∃ l content, t.locate p = .ok (l, some (.file content))

theorem Within.hasFile (h : Within names t u) (hname : Path.IsName name) (hn : name ∉ names)
    (hu : u.HasFile (p.child name)) : t.HasFile (p.child name) := by
  obtain ⟨l, content, hl⟩ := hu
  exact ⟨l, content, h.locate hname hn hl⟩

theorem hasFile_of_remove (h : t.remove p = .ok u) : t.HasFile p := by
  obtain ⟨l, content, hl, -⟩ := remove_eq_ok.mp h
  exact ⟨l, content, hl⟩

/-- A file that was removed is gone, also from every tree within the one it was removed from. -/
theorem not_hasFile_remove (hname : Path.IsName name) (h : t.remove (p.child name) = .ok u) :
    ¬ u.HasFile (p.child name) := by
  rintro ⟨l, content, hu⟩
  have ht := (remove_within [] h).locate hname List.not_mem_nil hu
  have hg : u.get? l = some (.file content) := (locate_get? hu).symm
  obtain ⟨k, content', hk, rfl⟩ := remove_eq_ok.mp h
  cases hk.symm.trans ht
  rw [get?_erase, if_pos ⟨rfl, locate_ne_nil ht⟩] at hg
  cases hg

/-! ## Trees with the same files -/

/-- Two trees with the same files at the same places. -/
def SameFiles (t u : Tree) : Prop :=
  ∀ l content, u.get? l = some (.file content) ↔ t.get? l = some (.file content)

theorem SameFiles.refl (t : Tree) : SameFiles t t := fun _ _ => Iff.rfl

theorem SameFiles.trans {v : Tree} (h : SameFiles t u) (h' : SameFiles u v) : SameFiles t v :=
  fun l content => (h' l content).trans (h l content)

theorem makeDirectory_sameFiles (h : t.makeDirectory p = .ok u) : SameFiles t u := by
  obtain ⟨k, hk, -, rfl⟩ := makeDirectory_eq_ok.mp h
  have hg : t.get? k = none := (locate_get? hk).symm
  have hne : k ≠ [] := by
    rintro rfl
    cases hg
  intro l content
  rw [get?_put _ _ _ _ hne]
  split
  · next hl =>
    subst hl
    rw [hg]
    simp
  · rfl

/-- Making directories keeps every file. -/
theorem makeDirectories_sameFiles (t : Tree) (p : Path) : SameFiles t (t.makeDirectories p).1 :=
  makeDirectoriesTo_induction p _ (.refl t) fun _ _ _ h hm => h.trans (makeDirectory_sameFiles hm)

/-! ## A text that is written -/

theorem walk_put (hl : t.get? l ≠ some .directory) (hw : t.walk here parts = .ok (l, found?)) :
    (t.put l (.file content)).walk here parts = .ok (l, some (.file content)) := by
  have hne : l ≠ [] := by
    rintro rfl
    exact hl rfl
  -- the directories on the way are not what is written
  have hkept {k : Place} (hd : t.get? k = some .directory) :
      (t.put l (.file content)).get? k = some .directory := by
    rw [get?_put _ _ _ _ hne, if_neg, hd]
    rintro rfl
    exact hl hd
  rw [walk_eq_ok] at hw ⊢
  induction parts generalizing here with
  | nil =>
    cases hw
    exact .nil (by rw [get?_put _ _ _ _ hne, if_pos rfl])
  | cons name rest ih =>
    cases hw with
    | up hd hrest => exact .up (hkept hd) (ih hrest)
    | down hd hup hshort hrest => exact .down (hkept hd) hup hshort (ih hrest)

/-- A text that is written stands where the path leads, and nothing else changes. -/
theorem writeText_spec {text : String} (h : t.writeText p text = .ok u) :
    ∃ l, u.locate p = .ok (l, some (.file (.text text))) ∧ ∀ k, k ≠ l → u.get? k = t.get? k := by
  obtain ⟨l, found?, hl, hdir, rfl⟩ := writeText_eq_ok.mp h
  have hg : t.get? l ≠ some .directory := by
    intro hd
    have hf : found? = t.get? l := locate_get? hl
    exact hdir (hf.trans hd)
  have hne : l ≠ [] := by
    rintro rfl
    exact hg rfl
  refine ⟨l, locate_of_walk hl (walk_put hg (walk_of_locate hl)), ?_⟩
  intro k hk
  rw [get?_put _ _ _ _ hne, if_neg (Ne.symm hk)]

end Tree

end BuildRepair
