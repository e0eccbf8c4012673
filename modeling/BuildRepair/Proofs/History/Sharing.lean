import BuildRepair.Proofs.History.Lasting

/-
  Several memories in one process. Each has histories and a base directory of its own, and all of
  them share one map from patterns to remedies. What a use of a memory makes known goes to the end
  of the map where its pattern is new, and nothing else happens to it (`step_patterns`). So the map
  only grows, and holds the first remedy made known for a pattern, whichever memory it came from
  (`run_patterns`).
-/

namespace BuildRepair

namespace Memory

variable {m : Memory} {t : Tree} {repo : String} {h : History}

/-- The fixes that loading the history of a repository reads from its file. -/
def unread (m : Memory) (t : Tree) (repo : String) : List Fix :=
  if (Assoc.find? repo m.histories).isSome then []
  else
    match m.path t repo with
    | .error _ => []
    | .ok p =>
      match read t p with
      | .error _ => []
      | .ok h => h.fixes

/-- What fixes make known: their remedies, up to the first pattern that cannot be learnt. -/
def known (fs : List Fix) : List (Json × Remedy) :=
  (fs.takeWhile (·.pattern.isKey)).map fun f => (f.pattern, f.remedy)

theorem patterns_learnAll (m : Memory) (fs : List Fix) :
    (m.learnAll fs).1.patterns = Assoc.putAllNew (known fs) m.patterns := by
  induction fs generalizing m with
  | nil => rfl
  | cons f fs ih =>
    unfold learnAll known
    split
    · next hkey =>
      rw [ih, List.takeWhile_cons, if_pos hkey]
      rfl
    · next hkey =>
      rw [List.takeWhile_cons, if_neg hkey]
      rfl

theorem patterns_adopt (m : Memory) (repo : String) (h : History) :
    (m.adopt repo h).1.patterns = Assoc.putAllNew (known h.fixes) m.patterns := by
  have hlearn := patterns_learnAll { m with histories := Assoc.put repo h m.histories } h.fixes
  unfold adopt
  split
  · next hl =>
    rw [hl] at hlearn
    exact hlearn
  · next hl =>
    rw [hl] at hlearn
    exact hlearn

/-- A history is only read where something stands. -/
theorem holds_of_read {p : Path} (hread : read t p = .ok h) : t.holds p = .ok true := by
  obtain ⟨text, htext, -⟩ := read_eq_ok.mp hread
  unfold Tree.readText at htext
  unfold Tree.holds Tree.look
  split at htext
  · cases htext
  · cases htext
  · cases htext
  · next hl =>
    rw [hl]
    rfl
  · next hl =>
    rw [hl]
    rfl

/-- Loading makes known what it reads, also where it fails at a pattern that cannot be learnt. -/
theorem patterns_load (m : Memory) (t : Tree) (repo : String) :
    (m.load t repo).1.patterns = Assoc.putAllNew (known (m.unread t repo)) m.patterns := by
  cases hm : Assoc.find? repo m.histories with
  | some h =>
    rw [load_remembered hm, unread, hm]
    rfl
  | none =>
    rw [load_unremembered hm, unread, hm, if_neg Bool.noConfusion]
    cases hp : m.path t repo with
    | error e => rfl
    | ok p =>
      dsimp only
      cases hread : read t p with
      | ok h =>
        rw [holds_of_read hread]
        exact patterns_adopt m repo h
      | error e =>
        split <;> rfl

theorem patterns_save (m : Memory) (t : Tree) (repo : String) (given : Option History)
    (now : Timestamp) : (m.save t repo given now).2.1.patterns = m.patterns := by
  have hopened : (if given.isSome then m else m.opened repo now).patterns = m.patterns := by
    split <;> rfl
  unfold save
  dsimp only
  split
  · exact hopened
  · split <;> exact hopened

end Memory

/-- The memories of a process, which share one map of patterns, and the tree they work in. -/
structure Memories where
  tree : Tree
  histories : Nat → List (String × History) := fun _ => []
  patterns : List (Json × Remedy) := []
  base : Nat → Option Path

namespace Memories

/-- One of the memories. -/
def memory (s : Memories) (i : Nat) : Memory := ⟨s.histories i, s.patterns, s.base i⟩

/-- The memories after one of them has changed. -/
def set (s : Memories) (i : Nat) (m : Memory) : Memories :=
  { s with histories := Function.update s.histories i m.histories, patterns := m.patterns }

/-- What happens to the memories. -/
inductive Use where
  /-- A remedy worked for a fault of a repository. -/
  | record (i : Nat) (repo pattern : String) (remedy : Remedy) (now : Timestamp)
  | load (i : Nat) (repo : String)
  | save (i : Nat) (repo : String) (given : Option History) (now : Timestamp)
  /-- A memory is asked for the history of a repository, its best remedy or its fixes in order. -/
  | ask (i : Nat) (repo : String) (now : Timestamp)
  /-- Files change by other means. -/
  | change (t : Tree)

variable {s : Memories}

def step (s : Memories) : Use → Memories
  | .record i repo pattern remedy now => s.set i ((s.memory i).record repo pattern remedy now)
  | .load i repo => s.set i ((s.memory i).load s.tree repo).1
  | .save i repo given now =>
    let saved := (s.memory i).save s.tree repo given now
    { s.set i saved.2.1 with tree := saved.1 }
  | .ask i repo now => s.set i ((s.memory i).opened repo now)
  | .change t => { s with tree := t }

def run (s : Memories) (uses : List Use) : Memories := uses.foldl step s

/-- What a use makes known: the remedy that is recorded, or those of the fixes that are read from
a history file, in the order of the file. -/
def news (s : Memories) : Use → List (Json × Remedy)
  | .record _ _ pattern remedy _ => [(.str pattern, remedy)]
  | .load i repo => Memory.known ((s.memory i).unread s.tree repo)
  | .save .. | .ask .. | .change _ => []

/-- Everything that uses make known, in the order in which they do. -/
def allNews (s : Memories) : List Use → List (Json × Remedy)
  | [] => []
  | u :: us => s.news u ++ (s.step u).allNews us

/-- What one use does to the map. -/
theorem step_patterns (s : Memories) (u : Use) :
    (s.step u).patterns = Assoc.putAllNew (s.news u) s.patterns := by
  cases u with
  | record i repo pattern remedy now => rfl
  | load i repo => exact Memory.patterns_load (s.memory i) s.tree repo
  | save i repo given now => exact Memory.patterns_save (s.memory i) s.tree repo given now
  | ask i repo now => rfl
  | change t => rfl

/-- What uses do to the map, one after the other. -/
theorem run_patterns_eq (s : Memories) (us : List Use) :
    (s.run us).patterns = Assoc.putAllNew (s.allNews us) s.patterns := by
  induction us generalizing s with
  | nil => rfl
  | cons u us ih =>
    show ((s.step u).run us).patterns = _
    rw [ih, step_patterns]
    exact (List.foldl_append ..).symm

/-- Memories of a process that starts without histories, in any tree and with any base directories,
used in any way. The map of their patterns
* only grows at its end, so that an entry that is there never changes and never goes away;
* holds for a pattern the first remedy that was made known for it;
* is what each of the memories answers from, for every pattern in it. -/
theorem run_patterns (t : Tree) (base : Nat → Option Path) (before after : List Use) :
    let fresh : Memories := { tree := t, base }
    let s := fresh.run before
    s.patterns <+: (s.run after).patterns ∧
    (∀ key r, Assoc.find? key s.patterns = some r →
      Assoc.find? key (s.run after).patterns = some r) ∧
    ∀ pattern,
      Assoc.find? (.str pattern) s.patterns = Assoc.find? (.str pattern) (fresh.allNews before) ∧
      ∀ r, Assoc.find? (.str pattern) s.patterns = some r →
        ∀ i, (s.memory i).successful pattern = some r := by
  intro fresh s
  have hgrows : s.patterns <+: (s.run after).patterns := by
    rw [run_patterns_eq s after]
    exact Assoc.prefix_putAllNew _ _
  refine ⟨hgrows, fun key r => Assoc.find?_of_prefix hgrows, fun pattern => ⟨?_, ?_⟩⟩
  · show Assoc.find? (.str pattern) (fresh.run before).patterns = _
    rw [run_patterns_eq, Assoc.find?_putAllNew fun j => Json.beq_str_iff.mp]
    rfl
  · intro r hr i
    show (Assoc.find? (.str pattern) s.patterns <|> _) = some r
    rw [hr]
    rfl

/-- A repository whose own history has another remedy does not change the answer of any memory. -/
example :
    let s := ({ tree := {}, base := fun _ => none } : Memories).run
      [.record 0 "a" "p" .forceInstall default, .record 1 "b" "p" .legacyPeerDeps default]
    (s.memory 1).successful "p" = some .forceInstall ∧
      (s.memory 1).best "b" "p" default = some .legacyPeerDeps := ⟨rfl, rfl⟩

end Memories
end BuildRepair
