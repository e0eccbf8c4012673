import BuildRepair.Proofs.History.Rereading

/-
  Loading the history of a repository. A history file that cannot be read counts as none, with the
  exception of a few faults that end the program (`LoadFails`): the place of the file cannot be
  told or looked at, a document holds a date out of range, an infinite count or a remedy that is no
  object where the reader comes to it, or a pattern of the history that was read cannot be learnt.
  `load_spec`: loading fails exactly then, gives a history exactly if one is remembered or a whole
  one is read, and else leaves the memory as it is.
-/

namespace BuildRepair

open Memory (isIgnored)

/-! ## Faults of a document -/

/-- A fault of a history file that does not make it count as none. -/
def Failure.Fatal (e : Failure) : Prop := isIgnored e = false

/-- Where a step has no fatal faults of its own, a fatal one comes from what is behind it. -/
theorem Failure.Fatal.behind {α β : Type} {x : Except Failure α} {f : α → Except Failure β}
    {e : Failure} (hf : e.Fatal) (hx : ∀ e, x = .error e → ¬ e.Fatal) (h : x >>= f = .error e) :
    ∃ a, x = .ok a ∧ f a = .error e :=
  (bind_eq_error.mp h).resolve_left fun he => hx e he hf

namespace History

variable {j : Json} {e : Failure} {name text : String} {fields : Fields}

theorem fieldsOf_not_fatal (h : fieldsOf j = .error e) : ¬ e.Fatal := by
  unfold fieldsOf at h
  split at h <;> cases h
  exact Bool.noConfusion

theorem required_not_fatal (h : required fields name = .error e) : ¬ e.Fatal := by
  unfold required at h
  split at h <;> cases h
  exact Bool.noConfusion

theorem itemsOf_not_fatal (h : itemsOf j = .error e) : ¬ e.Fatal := by
  unfold itemsOf at h
  split at h
  · cases h
  · cases h
  · split at h <;> cases h
    exact Bool.noConfusion
  · cases h
    exact Bool.noConfusion

theorem remedyRequired_not_fatal (h : Remedy.required fields name = .error e) : ¬ e.Fatal := by
  unfold Remedy.required at h
  split at h <;> cases h
  exact Bool.noConfusion

theorem ofFields_not_fatal {kind : String} (h : Remedy.ofFields kind fields = .error e) :
    ¬ e.Fatal := by
  have two (first second : String) {make : Json → Json → Remedy}
      (h : (do return make (← Remedy.required fields first) (← Remedy.required fields second)) =
        Except.error e) : ¬ e.Fatal := by
    rcases bind_eq_error.mp h with h | ⟨a, -, h⟩
    · exact remedyRequired_not_fatal h
    · rcases bind_eq_error.mp h with h | ⟨b, -, h⟩
      · exact remedyRequired_not_fatal h
      · cases h
  unfold Remedy.ofFields at h
  split at h
  · exact two "package" "newVersion" h
  · cases h
  · cases h
  · exact two "original" "replacement" h
  · rcases bind_eq_error.mp h with h | ⟨a, -, h⟩
    · exact remedyRequired_not_fatal h
    · cases h
  · exact two "package" "version" h
  · cases h
  · cases h
    exact Bool.noConfusion

/-- A remedy that is no object. -/
theorem remedy_fatal : Remedy.ofJson j = .error e ∧ e.Fatal ↔
    j.fields? = none ∧ e = .lacks j.kindName "get" := by
  constructor
  · rintro ⟨h, hf⟩
    unfold Remedy.ofJson at h
    split at h
    · split at h
      · exact absurd hf (ofFields_not_fatal h)
      · split at h <;> (cases h; cases hf)
      · cases h
        cases hf
    · next hobject =>
      cases h
      refine ⟨?_, rfl⟩
      unfold Json.fields?
      split
      · exact absurd rfl (hobject _)
      · rfl
  · rintro ⟨hj, rfl⟩
    refine ⟨?_, rfl⟩
    cases j <;> first | rfl | cases hj

/-- A count that is infinite. -/
theorem count_fatal : readCount j = .error e ∧ e.Fatal ↔
    (∃ negative, j = .real (.infinite negative)) ∧ e = .infiniteCount := by
  constructor
  · rintro ⟨h, hf⟩
    unfold readCount at h
    split at h
    · cases h
    · cases h
    · next negative =>
      cases h
      exact ⟨⟨negative, rfl⟩, rfl⟩
    · split at h
      · cases h
      · cases h
        cases hf
    · split at h
      · cases h
      · cases h
        cases hf
    · cases h
      cases hf
  · rintro ⟨⟨negative, rfl⟩, rfl⟩
    exact ⟨rfl, rfl⟩

/-- A text of a date that is out of range. -/
def OutOfRange (j : Json) : Prop := ∃ s, j = .str s ∧ Timestamp.read s = .error .outOfRange

theorem date_fatal : Timestamp.ofJson j = .error e ∧ e.Fatal ↔
    OutOfRange j ∧ e = .dateOutOfRange := by
  constructor
  · rintro ⟨h, hf⟩
    unfold Timestamp.ofJson at h
    split at h
    · cases h
    · next s =>
      unfold Timestamp.ofText at h
      split at h
      · cases h
      · cases h
        cases hf
      · next hread =>
        cases h
        exact ⟨⟨s, rfl, hread⟩, rfl⟩
    · cases h
      cases hf
  · rintro ⟨⟨s, rfl, hread⟩, rfl⟩
    refine ⟨?_, rfl⟩
    show Timestamp.ofText s = _
    unfold Timestamp.ofText
    rw [hread]

/-- What makes the reader fail at a stored fix: a remedy that is no object, an infinite count or a
date that is out of range, each behind what is read before it. -/
inductive FixFails (j : Json) : Failure → Prop
  | remedy (fields : Fields) (pattern strategy : Json) (isObject : j = .obj fields)
      (hasPattern : Assoc.find? "errorPattern" fields = some pattern)
      (hasStrategy : Assoc.find? "strategy" fields = some strategy)
      (noObject : strategy.fields? = none) : FixFails j (.lacks strategy.kindName "get")
  | count (fields : Fields) (pattern strategy : Json) (remedy : Remedy) (negative : Bool)
      (isObject : j = .obj fields) (hasPattern : Assoc.find? "errorPattern" fields = some pattern)
      (hasStrategy : Assoc.find? "strategy" fields = some strategy)
      (isRemedy : Remedy.ofJson strategy = .ok remedy)
      (isInfinite : Assoc.find? "successCount" fields = some (.real (.infinite negative))) :
      FixFails j .infiniteCount
  | lastUsed (fields : Fields) (pattern strategy count lastUsed : Json) (remedy : Remedy) (n : Int)
      (isObject : j = .obj fields) (hasPattern : Assoc.find? "errorPattern" fields = some pattern)
      (hasStrategy : Assoc.find? "strategy" fields = some strategy)
      (isRemedy : Remedy.ofJson strategy = .ok remedy)
      (hasCount : Assoc.find? "successCount" fields = some count) (isCount : readCount count = .ok n)
      (hasDate : Assoc.find? "lastUsed" fields = some lastUsed) (outOfRange : OutOfRange lastUsed) :
      FixFails j .dateOutOfRange

/-- A fix fails to be read just for these reasons. -/
theorem readFix_fatal : readFix j = .error e ∧ e.Fatal ↔ FixFails j e := by
  constructor
  · rintro ⟨h, hf⟩
    obtain ⟨fields, hfields, h⟩ := hf.behind (fun _ => fieldsOf_not_fatal) h
    have hj := fieldsOf_eq_ok hfields
    obtain ⟨pattern, hpattern, h⟩ := hf.behind (fun _ => required_not_fatal) h
    obtain ⟨strategy, hstrategy, h⟩ := hf.behind (fun _ => required_not_fatal) h
    rw [required_eq_ok] at hpattern hstrategy
    rcases bind_eq_error.mp h with h | ⟨remedy, hremedy, h⟩
    · obtain ⟨hobject, rfl⟩ := remedy_fatal.mp ⟨h, hf⟩
      exact .remedy fields pattern strategy hj hpattern hstrategy hobject
    obtain ⟨count, hcount, h⟩ := hf.behind (fun _ => required_not_fatal) h
    rw [required_eq_ok] at hcount
    rcases bind_eq_error.mp h with h | ⟨n, hn, h⟩
    · obtain ⟨⟨negative, rfl⟩, rfl⟩ := count_fatal.mp ⟨h, hf⟩
      exact .count fields pattern strategy remedy negative hj hpattern hstrategy hremedy hcount
    obtain ⟨lastUsed, hlast, h⟩ := hf.behind (fun _ => required_not_fatal) h
    rw [required_eq_ok] at hlast
    rcases bind_eq_error.mp h with h | ⟨t, -, h⟩
    · obtain ⟨hrange, rfl⟩ := date_fatal.mp ⟨h, hf⟩
      exact .lastUsed fields pattern strategy count lastUsed remedy n hj hpattern hstrategy hremedy
        hcount hn hlast hrange
    · cases h
  · intro h
    cases h with
    | remedy fields pattern strategy hj hpattern hstrategy hobject =>
      obtain ⟨hremedy, hf⟩ := remedy_fatal.mpr ⟨hobject, rfl⟩
      refine ⟨?_, hf⟩
      rw [hj]
      simp [readFix, fieldsOf, required, hpattern, hstrategy, hremedy, bind, Except.bind]
    | count fields pattern strategy remedy negative hj hpattern hstrategy hremedy hcount =>
      refine ⟨?_, rfl⟩
      rw [hj]
      simp [readFix, fieldsOf, required, hpattern, hstrategy, hremedy, hcount, readCount, bind,
        Except.bind]
    | lastUsed fields pattern strategy count lastUsed remedy n hj hpattern hstrategy hremedy hcount
        hn hlast hrange =>
      obtain ⟨hdate, hf⟩ := date_fatal.mpr ⟨hrange, rfl⟩
      refine ⟨?_, hf⟩
      rw [hj]
      simp [readFix, fieldsOf, required, hpattern, hstrategy, hremedy, hcount, hn, hlast, hdate,
        bind, Except.bind]

/-- What makes the reader fail at a document: a fix behind others that can be read, or the date of
the last run behind all fixes. -/
inductive DocumentFails (j : Json) : Failure → Prop
  | fix (fields : Fields) (repo item : Json) (before after : List Json) (e : Failure)
      (isObject : j = .obj fields) (hasRepo : Assoc.find? "repoId" fields = some repo)
      (hasItems : itemsOf ((Assoc.find? "fixes" fields).getD (.arr [])) =
        .ok (before ++ item :: after))
      (areFixes : ∀ b ∈ before, ∃ f, readFix b = .ok f) (fails : FixFails item e) :
      DocumentFails j e
  | lastRun (fields : Fields) (repo lastRun : Json) (items : List Json) (isObject : j = .obj fields)
      (hasRepo : Assoc.find? "repoId" fields = some repo)
      (hasItems : itemsOf ((Assoc.find? "fixes" fields).getD (.arr [])) = .ok items)
      (areFixes : ∀ b ∈ items, ∃ f, readFix b = .ok f)
      (hasDate : Assoc.find? "lastResurrection" fields = some lastRun)
      (outOfRange : OutOfRange lastRun) : DocumentFails j .dateOutOfRange

theorem ofJson_fatal : ofJson j = .error e ∧ e.Fatal ↔ DocumentFails j e := by
  constructor
  · rintro ⟨h, hf⟩
    obtain ⟨fields, hfields, h⟩ := hf.behind (fun _ => fieldsOf_not_fatal) h
    have hj := fieldsOf_eq_ok hfields
    obtain ⟨repo, hrepo, h⟩ := hf.behind (fun _ => required_not_fatal) h
    rw [required_eq_ok] at hrepo
    obtain ⟨items, hitems, h⟩ := hf.behind (fun _ => itemsOf_not_fatal) h
    rcases bind_eq_error.mp h with h | ⟨fixes, hfixes, h⟩
    · obtain ⟨before, item, after, rfl, hbefore, hitem⟩ := mapM_eq_error.mp h
      exact .fix fields repo item before after e hj hrepo hitems hbefore
        (readFix_fatal.mp ⟨hitem, hf⟩)
    obtain ⟨lastRun, hlast, h⟩ := hf.behind (fun _ => required_not_fatal) h
    rw [required_eq_ok] at hlast
    rcases bind_eq_error.mp h with h | ⟨t, -, h⟩
    · obtain ⟨hrange, rfl⟩ := date_fatal.mp ⟨h, hf⟩
      exact .lastRun fields repo lastRun items hj hrepo hitems (mapM_all hfixes) hlast hrange
    · cases h
  · intro h
    cases h with
    | fix fields repo item before after e hj hrepo hitems hbefore hfails =>
      obtain ⟨hitem, hf⟩ := readFix_fatal.mpr hfails
      have hfixes : (before ++ item :: after).mapM readFix = .error e :=
        mapM_eq_error.mpr ⟨before, item, after, rfl, hbefore, hitem⟩
      refine ⟨?_, hf⟩
      rw [hj]
      simp only [ofJson, fieldsOf, required, hrepo, hitems, hfixes, bind, Except.bind]
    | lastRun fields repo lastRun items hj hrepo hitems hall hlast hrange =>
      obtain ⟨hdate, hf⟩ := date_fatal.mpr ⟨hrange, rfl⟩
      obtain ⟨fixes, hfixes⟩ := mapM_total hall
      refine ⟨?_, hf⟩
      rw [hj]
      simp only [ofJson, fieldsOf, required, hrepo, hitems, hfixes, hlast, hdate, bind, Except.bind]

/-- What makes the reader fail at a text: a date out of range in an object with the tag of a point
in time, which the reader comes to before the text is known to be JSON, or its document. -/
inductive TextFails (text : String) : Failure → Prop
  | tagged (refused : Json.readWith Json.ofTagged .notJson text = .error .dateOutOfRange) :
      TextFails text .dateOutOfRange
  | document (j : Json) (e : Failure) (isJson : Json.readWith Json.ofTagged .notJson text = .ok j)
      (fails : DocumentFails j e) : TextFails text e

theorem ofTagged_fatal (h : Json.ofTagged fields = .error e) (hf : e.Fatal) :
    e = .dateOutOfRange := by
  unfold Json.ofTagged at h
  split at h
  · exact (date_fatal.mp ⟨map_eq_error.mp h, hf⟩).2
  · cases h

theorem ofText_fatal : ofText text = .error e ∧ e.Fatal ↔ TextFails text e := by
  constructor
  · rintro ⟨h, hf⟩
    unfold ofText at h
    split at h
    · next hread =>
      cases h
      rcases Json.readWith_eq_error hread with ⟨r, rfl⟩ | ⟨fields, hfields⟩
      · cases hf
      · obtain rfl := ofTagged_fatal hfields hf
        exact .tagged hread
    · next j hread => exact .document j e hread (ofJson_fatal.mp ⟨h, hf⟩)
  · intro h
    cases h with
    | tagged hread =>
      refine ⟨?_, rfl⟩
      unfold ofText
      rw [hread]
    | document j e hread hfails =>
      obtain ⟨hj, hf⟩ := ofJson_fatal.mpr hfails
      refine ⟨?_, hf⟩
      unfold ofText
      rw [hread]
      exact hj

end History

/-! ## Loading -/

namespace Memory

variable {m n : Memory} {t : Tree} {repo : String} {e : Failure} {p : Path} {h : History}
  {fs : List Fix}

/-- Remedies are learnt up to the first pattern that cannot be. -/
theorem learnAll_eq_error : (m.learnAll fs).2 = .error e ↔ ∃ before f after,
    fs = before ++ f :: after ∧ (∀ g ∈ before, g.pattern.isKey = true) ∧
      f.pattern.isKey = false ∧ e = .notKey f.pattern := by
  induction fs generalizing m with
  | nil =>
    constructor
    · intro h
      cases h
    · rintro ⟨before, f, after, h, -⟩
      cases before <;> cases h
  | cons f fs ih =>
    unfold learnAll
    by_cases hkey : f.pattern.isKey = true
    · rw [if_pos hkey, ih]
      constructor
      · rintro ⟨before, g, after, rfl, hbefore, hg⟩
        exact ⟨f :: before, g, after, rfl, List.forall_mem_cons.mpr ⟨hkey, hbefore⟩, hg⟩
      · rintro ⟨before, g, after, h, hbefore, hg, he⟩
        cases before with
        | nil =>
          cases h
          rw [hkey] at hg
          cases hg
        | cons b before =>
          cases h
          exact ⟨before, g, after, rfl, fun x hx => hbefore x (List.mem_cons_of_mem _ hx), hg, he⟩
    · rw [if_neg hkey]
      rw [Bool.not_eq_true] at hkey
      constructor
      · intro h
        cases h
        exact ⟨[], f, fs, rfl, by simp, hkey, rfl⟩
      · rintro ⟨before, g, after, h, hbefore, -, rfl⟩
        cases before with
        | nil =>
          cases h
          rfl
        | cons b before =>
          cases h
          rw [hbefore f (List.mem_cons_self ..)] at hkey
          cases hkey

/-- The memory with the remedies of some fixes learnt in order. -/
def learning (m : Memory) (fs : List Fix) : Memory :=
  fs.foldl (fun m f => m.learn f.pattern f.remedy) m

theorem learnAll_eq (hfs : ∀ f ∈ fs, f.pattern.isKey = true) :
    m.learnAll fs = (m.learning fs, .ok ()) := by
  induction fs generalizing m with
  | nil => rfl
  | cons f fs ih =>
    rw [List.forall_mem_cons] at hfs
    rw [learnAll, if_pos hfs.1, ih hfs.2]
    rfl

theorem isKey_of_learnAll (hl : (m.learnAll fs).2 = .ok ()) : ∀ f ∈ fs, f.pattern.isKey = true := by
  induction fs generalizing m with
  | nil => simp
  | cons f fs ih =>
    unfold learnAll at hl
    split at hl
    · next hkey => exact List.forall_mem_cons.mpr ⟨hkey, ih hl⟩
    · cases hl

/-- A whole history stands in the history file of a repository. -/
def Holds (m : Memory) (t : Tree) (repo : String) (h : History) : Prop :=
  ∃ p text, m.path t repo = .ok p ∧ t.holds p = .ok true ∧ t.readText p = .ok text ∧
    History.ofText text = .ok h

/-- What makes loading fail where no history is remembered. -/
inductive LoadFails (m : Memory) (t : Tree) (repo : String) : Failure → Prop
  | place (e : Failure) (noPlace : m.path t repo = .error e) : LoadFails m t repo e
  | look (p : Path) (e : FileError) (place : m.path t repo = .ok p)
      (noLook : t.holds p = .error e) : LoadFails m t repo (.file e)
  | text (p : Path) (text : String) (e : Failure) (place : m.path t repo = .ok p)
      (there : t.holds p = .ok true) (isText : t.readText p = .ok text)
      (fails : History.TextFails text e) : LoadFails m t repo e
  | pattern (h : History) (before after : List Fix) (f : Fix) (read : m.Holds t repo h)
      (fixes : h.fixes = before ++ f :: after) (keys : ∀ g ∈ before, g.pattern.isKey = true)
      (noKey : f.pattern.isKey = false) : LoadFails m t repo (.notKey f.pattern)

theorem readText_not_fatal (h : t.readText p = .error e) : ¬ e.Fatal := by
  unfold Tree.readText at h
  split at h
  · cases h
    exact Bool.noConfusion
  · cases h
    exact Bool.noConfusion
  · cases h
    exact Bool.noConfusion
  · cases h
  · split at h
    · cases h
    · cases h
      exact Bool.noConfusion

theorem load_remembered (hm : Assoc.find? repo m.histories = some h) :
    m.load t repo = (m, .ok (some h)) := by
  unfold load
  rw [hm]

/-- How a history is loaded that is not remembered. -/
theorem load_unremembered (hm : Assoc.find? repo m.histories = none) : m.load t repo =
    match m.path t repo with
    | .error e => (m, .error e)
    | .ok p =>
      match t.holds p with
      | .error e => (m, .error (.file e))
      | .ok false => (m, .ok none)
      | .ok true =>
        match read t p with
        | .ok h => m.adopt repo h
        | .error e => (m, if isIgnored e then .ok none else .error e) := by
  unfold load
  rewrite [hm]
  rfl

theorem adopt_eq (hkeys : ∀ f ∈ h.fixes, f.pattern.isKey = true) : m.adopt repo h =
    ({ m with histories := Assoc.put repo h m.histories }.learning h.fixes, .ok (some h)) := by
  unfold adopt
  rw [learnAll_eq hkeys]

theorem adopt_eq_error : (m.adopt repo h).2 = .error e ↔ ∃ before f after,
    h.fixes = before ++ f :: after ∧ (∀ g ∈ before, g.pattern.isKey = true) ∧
      f.pattern.isKey = false ∧ e = .notKey f.pattern := by
  rw [← learnAll_eq_error (m := { m with histories := Assoc.put repo h m.histories })]
  unfold adopt
  split
  · next hl =>
    rw [hl]
    constructor <;> (intro h; cases h; rfl)
  · next hl =>
    rw [hl]
    constructor <;> (intro h; cases h)

theorem read_eq_ok : read t p = .ok h ↔
    ∃ text, t.readText p = .ok text ∧ History.ofText text = .ok h := by
  unfold read
  cases t.readText p with
  | error e => simp
  | ok text => simp

theorem read_fatal : read t p = .error e ∧ e.Fatal ↔
    ∃ text, t.readText p = .ok text ∧ History.TextFails text e := by
  simp only [← History.ofText_fatal]
  unfold read
  cases ht : t.readText p with
  | error e' =>
    constructor
    · rintro ⟨h, hf⟩
      cases h
      exact absurd hf (readText_not_fatal ht)
    · rintro ⟨_, ⟨⟩, _⟩
  | ok text => simp

/-- The reasons for which loading fails. -/
theorem load_eq_error : (m.load t repo).2 = .error e ↔
    Assoc.find? repo m.histories = none ∧ LoadFails m t repo e := by
  constructor
  · intro hl
    cases hm : Assoc.find? repo m.histories with
    | some h =>
      rw [load_remembered hm] at hl
      cases hl
    | none =>
      refine ⟨rfl, ?_⟩
      rw [load_unremembered hm] at hl
      split at hl
      · next hp =>
        cases hl
        exact .place _ hp
      · next p hp =>
        split at hl
        · next hlook =>
          cases hl
          exact .look p _ hp hlook
        · cases hl
        · next there =>
          split at hl
          · next h hread =>
            obtain ⟨text, htext, hofText⟩ := read_eq_ok.mp hread
            obtain ⟨before, f, after, hfixes, hkeys, hkey, rfl⟩ := adopt_eq_error.mp hl
            exact .pattern h before after f ⟨p, text, hp, there, htext, hofText⟩ hfixes hkeys hkey
          · next e' hread =>
            dsimp only at hl
            split at hl
            · cases hl
            · next hf =>
              cases hl
              rw [Bool.not_eq_true] at hf
              obtain ⟨text, htext, hfails⟩ := read_fatal.mp ⟨hread, hf⟩
              exact .text p text e hp there htext hfails
  · rintro ⟨hm, hl⟩
    rw [load_unremembered hm]
    cases hl with
    | place e hp => rw [hp]
    | look p e hp hlook => simp only [hp, hlook]
    | text p text e hp there htext hfails =>
      obtain ⟨hread, hf⟩ := read_fatal.mpr ⟨text, htext, hfails⟩
      unfold Failure.Fatal at hf
      simp only [hp, there, hread, hf, Bool.false_eq_true, if_false]
    | pattern h before after f hread hfixes hkeys hkey =>
      obtain ⟨p, text, hp, there, htext, hofText⟩ := hread
      simp only [hp, there, read_eq_ok.mpr ⟨text, htext, hofText⟩]
      exact adopt_eq_error.mpr ⟨before, f, after, hfixes, hkeys, hkey, rfl⟩

/-- What adopting a history gives, if it gives one. -/
theorem adopt_eq_some {h' : History} (ha : (m.adopt repo h').2 = .ok (some h)) :
    h' = h ∧ ∀ f ∈ h.fixes, f.pattern.isKey = true := by
  unfold adopt at ha
  split at ha
  · cases ha
  · next hlearn =>
    cases ha
    exact ⟨rfl, isKey_of_learnAll (congrArg Prod.snd hlearn)⟩

theorem load_eq_some : (m.load t repo).2 = .ok (some h) ↔
    Assoc.find? repo m.histories = some h ∨ Assoc.find? repo m.histories = none ∧
      m.Holds t repo h ∧ ∀ f ∈ h.fixes, f.pattern.isKey = true := by
  constructor
  · intro hl
    cases hm : Assoc.find? repo m.histories with
    | some h' =>
      rw [load_remembered hm] at hl
      cases hl
      exact .inl rfl
    | none =>
      refine .inr ⟨rfl, ?_⟩
      rw [load_unremembered hm] at hl
      split at hl
      · cases hl
      · next p hp =>
        split at hl
        · cases hl
        · cases hl
        · next there =>
          split at hl
          · next hread =>
            obtain ⟨rfl, hkeys⟩ := adopt_eq_some hl
            obtain ⟨text, htext, hofText⟩ := read_eq_ok.mp hread
            exact ⟨⟨p, text, hp, there, htext, hofText⟩, hkeys⟩
          · dsimp only at hl
            split at hl <;> cases hl
  · rintro (hm | ⟨hm, ⟨p, text, hp, there, htext, hofText⟩, hkeys⟩)
    · rw [load_remembered hm]
    · rw [load_unremembered hm]
      simp only [hp, there, read_eq_ok.mpr ⟨text, htext, hofText⟩, adopt_eq hkeys]

/-- The memory after loading gave a history or none. -/
def loaded (m : Memory) (repo : String) : Option History → Memory
  | none => m
  | some h =>
    if (Assoc.find? repo m.histories).isSome then m
    else { m with histories := Assoc.put repo h m.histories }.learning h.fixes

theorem load_memory {found : Option History} (hl : (m.load t repo).2 = .ok found) :
    (m.load t repo).1 = m.loaded repo found := by
  cases hm : Assoc.find? repo m.histories with
  | some h =>
    rw [load_remembered hm] at hl ⊢
    cases hl
    rw [loaded, hm]
    rfl
  | none =>
    rw [load_unremembered hm] at hl ⊢
    split at hl
    · cases hl
    · split at hl
      · cases hl
      · cases hl
        rfl
      · split at hl
        · next h _ =>
          cases found with
          | none =>
            unfold adopt at hl
            split at hl <;> cases hl
          | some h' =>
            obtain ⟨rfl, hkeys⟩ := adopt_eq_some hl
            rw [adopt_eq hkeys, loaded, hm]
            rfl
        · dsimp only at hl
          split at hl <;> cases hl
          rfl

/-- Loading the history of a repository, whatever the memory, the tree and its history file:
* it fails just for the reasons that `LoadFails` lists;
* it gives a history just if one is remembered, or the history file holds a whole one whose
  patterns can all be learnt;
* if it gives none, the memory is as before;
* if it gives one that was not remembered, that one is, and its remedies are learnt. -/
theorem load_spec (m : Memory) (t : Tree) (repo : String) :
    (∀ e, (m.load t repo).2 = .error e ↔
      Assoc.find? repo m.histories = none ∧ LoadFails m t repo e) ∧
    (∀ h, (m.load t repo).2 = .ok (some h) ↔ Assoc.find? repo m.histories = some h ∨
      Assoc.find? repo m.histories = none ∧ m.Holds t repo h ∧
        ∀ f ∈ h.fixes, f.pattern.isKey = true) ∧
    ((m.load t repo).2 = .ok none → (m.load t repo).1 = m) ∧
    (∀ h, (m.load t repo).2 = .ok (some h) → (m.load t repo).1 =
      if (Assoc.find? repo m.histories).isSome then m
      else { m with histories := Assoc.put repo h m.histories }.learning h.fixes) := by
  refine ⟨fun _ => load_eq_error, fun _ => load_eq_some, ?_, ?_⟩
  · intro hl
    rw [load_memory hl, loaded]
  · intro h hl
    rw [load_memory hl, loaded]

/-! ## A file that ends the program -/

/-- A document of a fix without a remedy. -/
def remedyless : Json := .obj [
  ("repoId", .str "repo"),
  ("fixes", .arr [.obj [
    ("errorPattern", .str "p"), ("strategy", .null), ("successCount", .int 1),
    ("lastUsed", .str "2024-01-01T00:00:00")]]),
  ("lastResurrection", .str "2024-01-01T00:00:00")]

/-- A repository with that history file. -/
def remedylessTree : Tree :=
  { entries := [(["repo"], .directory), (["repo", ".revive"], .directory),
      (["repo", ".revive", "fix-history.json"], .file (.text remedyless.document))] }

theorem remedyless_storable : remedyless.Storable := by
  have hone : (1 : Int).natAbs < Binary64.tenPow Json.integerDigitLimit := by
    rw [Binary64.tenPow_eq]
    exact Nat.one_lt_pow (by decide) (by decide)
  have hfix : (Json.obj [("errorPattern", .str "p"), ("strategy", .null), ("successCount", .int 1),
      ("lastUsed", .str "2024-01-01T00:00:00")]).Storable := by
    refine .obj _ (by decide) (Json.untagged_of_not_mem (by decide)) ?_
    simp only [List.forall_mem_cons, List.not_mem_nil, false_imp_iff, implies_true, and_true]
    exact ⟨.str _, .null, .int 1 hone, .str _⟩
  refine .obj _ (by decide) (Json.untagged_of_not_mem (by decide)) ?_
  simp only [List.forall_mem_cons, List.not_mem_nil, false_imp_iff, implies_true, and_true]
  exact ⟨.str _, .arr _ (by simpa using hfix), .str _⟩

/-- Loading it fails, instead of giving no history. -/
theorem load_remedyless :
    (({} : Memory).load remedylessTree "repo").2 = .error (.lacks "NoneType" "get") := by
  have hjson : Json.readWith Json.ofTagged .notJson remedyless.document = .ok remedyless :=
    Json.readWith_document remedyless_storable.readAs .notJson
  have htext : remedylessTree.readText ⟨"", ["repo", ".revive", "fix-history.json"]⟩ =
      .ok remedyless.document := Tree.readText_document rfl
  refine load_eq_error.mpr ⟨rfl, .text _ _ _ rfl rfl htext (.document _ _ hjson ?_)⟩
  exact .fix _ (.str "repo") _ [] [] _ rfl rfl rfl (by simp)
    (.remedy _ (.str "p") .null rfl rfl rfl rfl)

end Memory
end BuildRepair
