import BuildRepair.Blocking
import BuildRepair.Proofs.Assoc
import BuildRepair.Proofs.Http.Probing

/-
  Which dependencies block installation. Five rules are tried in a fixed order: the package is known
  to block, it lacks support for the architecture, its source holds a dead address or matches a glob
  of dead ones, or its archive cannot be reached. `verdict_cases` says for one dependency that the
  first rule that applies decides, and `detect_classifies` for all of them that nothing else is
  found, in which order, with which replacements, and which requests are sent.

  The web may answer a request differently after other requests. So the last rule applies to a
  dependency after the requests that were sent for those before it. What a probe sends and when it
  fails is told by the exchange itself (`Url.Probes`), and not by the function that makes it.
-/

namespace BuildRepair

namespace Detector

variable {d : Detector} {sent : List String} {name version : String}

/-! ## The rules -/

/-- The rules by which a dependency blocks installation. -/
inductive Rule where
  | listed
  | unsupported
  | deadUrl
  | deadPattern
  | unreachable
deriving DecidableEq, Repr

/-- The place of a rule in the order in which they are tried. -/
def Rule.rank : Rule → Nat
  | .listed => 0
  | .unsupported => 1
  | .deadUrl => 2
  | .deadPattern => 3
  | .unreachable => 4

theorem Rule.rank_inj {r s : Rule} (h : r.rank = s.rank) : r = s := by
  cases r <;> cases s <;> first | rfl | cases h

/-- A version that names an archive. -/
def IsArchive (version : String) : Prop :=
  "/archive/".toList <:+: version.toList ∨ "/tarball/".toList <:+: version.toList

/-- Whether a rule applies to a dependency, after some requests. -/
def Applies (d : Detector) (sent : List String) (name version : String) : Rule → Prop
  | .listed => ∃ reason, (name, reason) ∈ Blocked.known
  | .unsupported =>
    ∃ registry limit, d.registry = some registry ∧
      registry.limits.find? (·.package == name) = some limit ∧
      d.architecture ∈ limit.architectures
  | .deadUrl =>
    ∃ registry, d.registry = some registry ∧
      ∃ dead ∈ registry.deadUrls, dead.toList <:+: version.toList
  | .deadPattern =>
    ∃ registry patterns, d.registry = some registry ∧ registry.deadPatterns = some patterns ∧
      ∃ p ∈ patterns, Glob.occurs p.pattern version = true
  | .unreachable =>
    d.checkUrls = true ∧ IsArchive version ∧
      ∃ requests, Url.Probes d.network sent version false requests

/-- None of the first rules applies to a dependency. -/
def NoneBefore (d : Detector) (sent : List String) (name version : String) (n : Nat) : Prop :=
  ∀ rule : Rule, rule.rank < n → ¬ d.Applies sent name version rule

/-- The first rule that applies to a dependency. -/
def FirstRule (d : Detector) (sent : List String) (name version : String) (rule : Rule) : Prop :=
  d.Applies sent name version rule ∧ d.NoneBefore sent name version rule.rank

/-- The reason that a rule gives. -/
def Rule.Gives (rule : Rule) (name : String) (reason : BlockReason) : Prop :=
  match rule with
  | .listed => (name, reason) ∈ Blocked.known
  | .unsupported => reason = .architecture
  | .deadUrl | .deadPattern | .unreachable => reason = .deadUrl

/-- The replacement that an architecture limit names for a package. -/
def limitReplacement (package : String) (limit : ArchitectureLimit) : Option Replacement :=
  (limit.replacement.filter (· != "")).map fun newName =>
    { oldName := package, newName, versions := [("*", "latest")], manual := true
      note := if limit.reason = "" then none else some limit.reason }

/-- The replacement that a registry names for a package: its first entry, else the one of its first
architecture limit. -/
def registered (registry : Registry) (name : String) : Option Replacement :=
  (registry.replacements.find? (·.oldName == name)).or
    ((registry.limits.find? (·.package == name)).bind (limitReplacement name))

/-- The replacement that a dependency carries: the one that the registry names, else, if it was a
glob of dead addresses that applied, the one of the first glob that matches. -/
def carried (d : Detector) (rule : Rule) (name version : String) : Option Replacement :=
  d.registry.bind fun registry =>
    (registered registry name).or
      (if rule = .deadPattern then
        ((registry.deadPatterns.getD []).find? fun p => Glob.occurs p.pattern version).bind
          (patternReplacement name)
      else none)

/-- A dependency blocks by the first rule that applies to it. -/
def Blocks (d : Detector) (sent : List String) (b : Blocked) : Prop :=
  ∃ rule, d.FirstRule sent b.name b.version rule ∧ rule.Gives b.name b.reason ∧
    b.replacement = d.carried rule b.name b.version

/-- Whether a dependency is asked for: it names an archive, and no rule before the last one applies
to it. -/
def Asks (d : Detector) (name version : String) : Prop :=
  d.checkUrls = true ∧ IsArchive version ∧
    ∀ sent, d.NoneBefore sent name version Rule.unreachable.rank

theorem FirstRule.unique {rule other : Rule} (h : d.FirstRule sent name version rule)
    (h' : d.FirstRule sent name version other) : rule = other := by
  refine Rule.rank_inj (Nat.le_antisymm ?_ ?_)
  · exact Nat.le_of_not_lt fun hlt => h.2 other hlt h'.1
  · exact Nat.le_of_not_lt fun hlt => h'.2 rule hlt h.1

theorem noneBefore_zero : d.NoneBefore sent name version 0 :=
  fun _ hlt => absurd hlt (Nat.not_lt_zero _)

theorem NoneBefore.succ {rule : Rule} (h : d.NoneBefore sent name version rule.rank)
    (hrule : ¬ d.Applies sent name version rule) :
    d.NoneBefore sent name version (rule.rank + 1) := by
  intro other hlt
  rcases Nat.lt_succ_iff_lt_or_eq.mp hlt with hlt | heq
  · exact h other hlt
  · rw [Rule.rank_inj heq]
    exact hrule

theorem nodup_known : (Assoc.keys Blocked.known).Nodup := by decide

theorem Rule.Gives.unique {rule : Rule} {reason other : BlockReason} (h : rule.Gives name reason)
    (h' : rule.Gives name other) : reason = other := by
  cases rule with
  | listed =>
    have hfind := (Assoc.find?_eq_some_iff nodup_known).mpr h
    exact Option.some.inj (hfind.symm.trans ((Assoc.find?_eq_some_iff nodup_known).mpr h'))
  | _ => exact Eq.trans h (Eq.symm h')

/-! ## How the rules are decided -/

theorem isArchiveUrl_iff : isArchiveUrl version = true ↔ IsArchive version := by
  unfold isArchiveUrl IsArchive
  rw [Bool.or_eq_true, Text.holds_iff, Text.holds_iff]

theorem lacksSupport_iff :
    d.lacksSupport name = true ↔ d.Applies sent name version .unsupported := by
  unfold lacksSupport Applies Registry.limitOf
  cases d.registry with
  | none => simp
  | some registry => simp [Option.any_eq_true]

theorem isDeadUrl_iff {registry : Registry} : registry.isDeadUrl version = true ↔
    ∃ dead ∈ registry.deadUrls, dead.toList <:+: version.toList := by
  unfold Registry.isDeadUrl
  simp only [List.any_eq_true, Text.holds_iff]

theorem deadPattern_isSome_iff {registry : Registry} :
    (registry.deadPattern version).isSome = true ↔
      ∃ patterns, registry.deadPatterns = some patterns ∧
        ∃ p ∈ patterns, Glob.occurs p.pattern version = true := by
  unfold Registry.deadPattern
  rw [List.find?_isSome]
  cases registry.deadPatterns with
  | none => simp
  | some patterns => simp

theorem replacementOf_eq : d.replacementOf name = d.registry.bind (registered · name) := by
  unfold replacementOf registered Registry.lookup Registry.limitOf
  cases d.registry with
  | none => rfl
  | some registry =>
    simp only [Option.bind_eq_bind, Option.bind_some]
    cases registry.replacements.find? (·.oldName == name) with
    | some r => rfl
    | none =>
      rw [Option.none_or]
      cases registry.limits.find? (·.package == name) with
      | none => rfl
      | some limit =>
        dsimp only [Option.bind_some]
        unfold limitReplacement
        cases limit.replacement.filter (· != "") <;> rfl

theorem carried_of_ne {rule : Rule} (h : rule ≠ .deadPattern) :
    d.carried rule name version = d.replacementOf name := by
  rw [replacementOf_eq]
  unfold carried
  simp only [if_neg h, Option.or_none]

/-! ## One dependency -/

/-- Only the last rule looks at the requests that were sent. -/
theorem NoneBefore.congr (h : d.NoneBefore sent name version Rule.unreachable.rank)
    (sent' : List String) : d.NoneBefore sent' name version Rule.unreachable.rank := by
  intro rule hlt
  have hrule := h rule hlt
  cases rule with
  | unreachable => exact absurd hlt (Nat.lt_irrefl _)
  | _ => exact hrule

theorem applies_unreachable : d.Applies sent name version .unreachable ↔
    d.checkUrls = true ∧ IsArchive version ∧ (Url.probe d.network sent version).1 = false := by
  have hprobes : (∃ requests, Url.Probes d.network sent version false requests) ↔
      (Url.probe d.network sent version).1 = false := by
    simp only [Url.probe_iff, Prod.ext_iff, exists_and_left, exists_eq', and_true]
  exact and_congr_right' (and_congr_right' hprobes)

/-- A dependency that no other rule applies to is asked for if it is an archive. -/
theorem asks_iff (h : d.NoneBefore sent name version Rule.unreachable.rank) :
    d.Asks name version ↔ (d.checkUrls && isArchiveUrl version) = true := by
  rw [Bool.and_eq_true, isArchiveUrl_iff]
  exact ⟨fun ha => ⟨ha.1, ha.2.1⟩, fun ha => ⟨ha.1, ha.2, h.congr⟩⟩

/-- A list of the registry decides, without a request. -/
theorem listedDead_cases (d : Detector) (sent : List String) (name version : String) :
    d.Applies sent name version .deadUrl ∧
        d.listedDead name version = some (d.carried .deadUrl name version) ∨
      ¬ d.Applies sent name version .deadUrl ∧ d.Applies sent name version .deadPattern ∧
        d.listedDead name version = some (d.carried .deadPattern name version) ∨
      ¬ d.Applies sent name version .deadUrl ∧ ¬ d.Applies sent name version .deadPattern ∧
        d.listedDead name version = none := by
  have hcarried : d.carried .deadUrl name version = d.replacementOf name :=
    carried_of_ne (by decide)
  rw [hcarried]
  unfold listedDead Applies carried
  rw [replacementOf_eq]
  cases d.registry with
  | none => simp
  | some registry =>
    simp only [Option.bind_eq_bind, Option.bind_some, Option.some.injEq, exists_eq_left',
      exists_and_left, if_true]
    rw [← isDeadUrl_iff, ← deadPattern_isSome_iff]
    cases hurl : registry.isDeadUrl version with
    | true => exact .inl ⟨rfl, rfl⟩
    | false =>
      cases hglob : registry.deadPattern version with
      | none => exact .inr (.inr (by simp))
      | some p =>
        unfold Registry.deadPattern at hglob
        exact .inr (.inl (by simp [hglob]))

theorem not_listed (h : Assoc.find? name Blocked.known = none) :
    ¬ d.Applies sent name version .listed := by
  rintro ⟨reason, hmem⟩
  cases h.symm.trans ((Assoc.find?_eq_some_iff nodup_known).mpr hmem)

/-- The first rule that applies decides, and only the last one takes a request. -/
theorem verdict_cases (d : Detector) (sent : List String) (name version : String) :
    (∃ rule reason, rule.rank < Rule.unreachable.rank ∧ d.FirstRule sent name version rule ∧
        rule.Gives name reason ∧
        d.verdict sent name version = (some (reason, d.carried rule name version), [])) ∨
      d.NoneBefore sent name version Rule.unreachable.rank ∧
        d.verdict sent name version =
          if d.checkUrls && isArchiveUrl version then
            let (reachable, requests) := Url.probe d.network sent version
            (if reachable then none else some (.deadUrl, d.replacementOf name), requests)
          else (none, []) := by
  have hnone : d.NoneBefore sent name version Rule.listed.rank := noneBefore_zero
  unfold verdict
  cases hknown : Assoc.find? name Blocked.known with
  | some reason =>
    have hlisted := (Assoc.find?_eq_some_iff nodup_known).mp hknown
    refine .inl ⟨.listed, reason, by decide, ⟨⟨reason, hlisted⟩, hnone⟩, hlisted, ?_⟩
    rw [carried_of_ne (by decide)]
  | none =>
    have hnone : d.NoneBefore sent name version Rule.unsupported.rank :=
      hnone.succ (not_listed hknown)
    cases hsupport : d.lacksSupport name with
    | true =>
      refine .inl ⟨.unsupported, .architecture, by decide, ⟨lacksSupport_iff.mp hsupport, hnone⟩,
        rfl, ?_⟩
      rw [carried_of_ne (by decide)]
      rfl
    | false =>
      have hsupported : ¬ d.Applies sent name version .unsupported := by
        rw [← lacksSupport_iff, hsupport]
        decide
      have hnone : d.NoneBefore sent name version Rule.deadUrl.rank := hnone.succ hsupported
      rcases d.listedDead_cases sent name version with ⟨hurl, hdead⟩ | ⟨hurl, hglob, hdead⟩ |
        ⟨hurl, hglob, hdead⟩
      · rw [hdead]
        exact .inl ⟨.deadUrl, .deadUrl, by decide, ⟨hurl, hnone⟩, rfl, rfl⟩
      · rw [hdead]
        exact .inl ⟨.deadPattern, .deadUrl, by decide, ⟨hglob, hnone.succ hurl⟩, rfl, rfl⟩
      · have hurls : d.NoneBefore sent name version Rule.deadPattern.rank := hnone.succ hurl
        rw [hdead]
        exact .inr ⟨hurls.succ hglob, rfl⟩

/-- A dependency that no other rule applies to blocks if its archive cannot be reached. -/
theorem blocks_iff_unreachable {reason : BlockReason} {r : Option Replacement}
    (h : d.NoneBefore sent name version Rule.unreachable.rank) :
    d.Blocks sent ⟨name, version, reason, r⟩ ↔
      d.Applies sent name version .unreachable ∧ reason = .deadUrl ∧ r = d.replacementOf name := by
  constructor
  · rintro ⟨rule, hrule, hreason, hr⟩
    cases rule with
    | unreachable =>
      rw [carried_of_ne (by decide)] at hr
      exact ⟨hrule.1, hreason, hr⟩
    | _ => exact absurd hrule.1 (h _ (by decide))
  · rintro ⟨happlies, rfl, rfl⟩
    exact ⟨.unreachable, ⟨happlies, h⟩, rfl, (carried_of_ne (by decide)).symm⟩

/-- What is found out about a dependency is that it blocks by the first rule that applies. -/
theorem verdict_found_iff {reason : BlockReason} {r : Option Replacement} :
    (d.verdict sent name version).1 = some (reason, r) ↔
      d.Blocks sent ⟨name, version, reason, r⟩ := by
  rcases d.verdict_cases sent name version with ⟨rule, given, -, hfirst, hgives, hverdict⟩ |
    ⟨hnone, hverdict⟩
  · rw [hverdict]
    constructor
    · intro h
      cases h
      exact ⟨rule, hfirst, hgives, rfl⟩
    · rintro ⟨other, hother, hreason, hr⟩
      obtain rfl : rule = other := hfirst.unique hother
      obtain rfl : given = reason := hgives.unique hreason
      exact congrArg (fun r => some (given, r)) hr.symm
  · rw [hverdict, blocks_iff_unreachable hnone, applies_unreachable, ← isArchiveUrl_iff]
    cases d.checkUrls with
    | false => simp
    | true =>
      cases isArchiveUrl version with
      | false => simp
      | true => cases h : (Url.probe d.network sent version).1 <;> simp [h, eq_comm]

theorem verdict_requests_of_asks (h : d.Asks name version) (sent : List String) :
    (d.verdict sent name version).2 = (Url.probe d.network sent version).2 := by
  rcases d.verdict_cases sent name version with ⟨rule, -, hlt, hfirst, -, -⟩ | ⟨hnone, hverdict⟩
  · exact absurd hfirst.1 (h.2.2 sent rule hlt)
  · rw [hverdict, if_pos ((asks_iff hnone).mp h)]

theorem verdict_requests_of_not_asks (h : ¬ d.Asks name version) (sent : List String) :
    (d.verdict sent name version).2 = [] := by
  rcases d.verdict_cases sent name version with ⟨rule, given, -, -, -, hverdict⟩ |
    ⟨hnone, hverdict⟩
  · rw [hverdict]
  · rw [hverdict, if_neg (mt (asks_iff hnone).mpr h)]

/-! ## All dependencies -/

variable {deps before after : List (String × String)}

/-- A scan of two lists goes on with the second one after the requests for the first. -/
theorem scan_append (d : Detector) (sent : List String) (before after : List (String × String)) :
    d.scan sent (before ++ after) =
      ((d.scan sent before).1 ++ (d.scan (sent ++ (d.scan sent before).2) after).1,
        (d.scan sent before).2 ++ (d.scan (sent ++ (d.scan sent before).2) after).2) := by
  induction before generalizing sent with
  | nil => simp [scan]
  | cons p before ih =>
    obtain ⟨name, version⟩ := p
    simp [scan, ih, List.append_assoc]

theorem name_mem_of_mem_scan {b : Blocked} (h : b ∈ (d.scan sent deps).1) :
    b.name ∈ Assoc.keys deps := by
  have hmem := (d.scan_sublist sent deps).subset (List.mem_map_of_mem h)
  exact List.mem_map_of_mem hmem

/-- A dependency is found if it blocks after the requests for those before it. -/
theorem mem_scan_iff {b : Blocked} (hname : b.name = name)
    (hnodup : (Assoc.keys (before ++ (name, version) :: after)).Nodup) :
    b ∈ (d.scan sent (before ++ (name, version) :: after)).1 ↔
      b.version = version ∧ d.Blocks (sent ++ (d.scan sent before).2) b := by
  subst hname
  have hbefore {sent : List String} : b ∉ (d.scan sent before).1 := by
    intro h
    unfold Assoc.keys at hnodup
    rw [List.map_append, List.nodup_append] at hnodup
    exact hnodup.2.2 _ (name_mem_of_mem_scan h) _ (List.mem_cons_self ..) rfl
  have hafter {sent : List String} : b ∉ (d.scan sent after).1 := by
    intro h
    unfold Assoc.keys at hnodup
    rw [List.map_append, List.nodup_append, List.map_cons, List.nodup_cons] at hnodup
    exact hnodup.2.1.1 (name_mem_of_mem_scan h)
  obtain ⟨name, found, reason, r⟩ := b
  rw [scan_append, List.mem_append, or_iff_right hbefore, scan]
  dsimp only
  rw [List.mem_append, or_iff_left hafter, Option.mem_toList, Option.map_eq_some_iff]
  constructor
  · rintro ⟨⟨reason', r'⟩, hverdict, heq⟩
    cases heq
    exact ⟨rfl, verdict_found_iff.mp hverdict⟩
  · rintro ⟨rfl, hblocks⟩
    exact ⟨(reason, r), verdict_found_iff.mpr hblocks, rfl⟩

/-- The requests are those for the dependencies that are asked for. -/
theorem scan_requests (d : Detector) (sent : List String) (deps : List (String × String)) :
    ∃ asked : List (String × String), asked.Sublist deps ∧ (∀ p ∈ asked, d.Asks p.1 p.2) ∧
      (∀ p ∈ deps, d.Asks p.1 p.2 → p ∈ asked) ∧
      Url.ProbesAll d.network sent (asked.map (·.2)) (d.scan sent deps).2 := by
  induction deps generalizing sent with
  | nil => exact ⟨[], .slnil, by simp, by simp, .nil⟩
  | cons p deps ih =>
    obtain ⟨name, version⟩ := p
    by_cases hasks : d.Asks name version
    · obtain ⟨asked, hsub, hall, hmem, hrequests⟩ :=
        ih (sent ++ (Url.probe d.network sent version).2)
      refine ⟨(name, version) :: asked, hsub.cons_cons _, List.forall_mem_cons.mpr ⟨hasks, hall⟩,
        ?_, ?_⟩
      · intro q hq ha
        rcases List.mem_cons.mp hq with rfl | hq
        · exact List.mem_cons_self ..
        · exact List.mem_cons_of_mem _ (hmem q hq ha)
      · simp only [scan, verdict_requests_of_asks hasks, List.map_cons]
        exact .cons (Url.probe_probes ..) hrequests
    · obtain ⟨asked, hsub, hall, hmem, hrequests⟩ := ih sent
      refine ⟨asked, hsub.cons _, hall, ?_, ?_⟩
      · intro q hq ha
        rcases List.mem_cons.mp hq with rfl | hq
        · exact absurd ha hasks
        · exact hmem q hq ha
      · simp only [scan, verdict_requests_of_not_asks hasks, List.append_nil, List.nil_append]
        exact hrequests

/-- Where archives are not asked for, nothing depends on the web. -/
theorem scan_offline (h : d.checkUrls = false) (web : Web) (sent : List String)
    (deps : List (String × String)) :
    ({ d with network := web } : Detector).scan sent deps = d.scan sent deps := by
  have hverdict (sent : List String) (name version : String) :
      ({ d with network := web } : Detector).verdict sent name version =
        d.verdict sent name version := by
    unfold verdict lacksSupport listedDead replacementOf
    simp only [h, Bool.false_and, Bool.false_eq_true, if_false]
  induction deps generalizing sent with
  | nil => rfl
  | cons p deps ih => simp only [scan, hverdict, ih]

theorem carried_oldName {rule : Rule} {r : Replacement} (h : d.carried rule name version = some r) :
    r.oldName = name := by
  unfold carried registered at h
  obtain ⟨registry, -, h⟩ := Option.bind_eq_some_iff.mp h
  rcases Option.or_eq_some_iff.mp h with h | ⟨-, h⟩
  · rcases Option.or_eq_some_iff.mp h with h | ⟨-, h⟩
    · simpa using List.find?_some h
    · obtain ⟨limit, -, h⟩ := Option.bind_eq_some_iff.mp h
      obtain ⟨newName, -, rfl⟩ := Option.map_eq_some_iff.mp h
      rfl
  · split at h
    · obtain ⟨p, -, h⟩ := Option.bind_eq_some_iff.mp h
      obtain ⟨newName, -, rfl⟩ := Option.map_eq_some_iff.mp h
      rfl
    · cases h

/-- Some rule applies iff a first one does. -/
theorem exists_firstRule (h : ∃ rule, d.Applies sent name version rule) :
    ∃ rule, d.FirstRule sent name version rule := by
  classical
  obtain ⟨rule, hrule⟩ := h
  induction hn : rule.rank using Nat.strongRecOn generalizing rule with
  | _ n ih =>
    by_cases hfirst : ∀ other : Rule, other.rank < rule.rank → ¬ d.Applies sent name version other
    · exact ⟨rule, hrule, hfirst⟩
    · simp only [not_forall, not_not] at hfirst
      obtain ⟨other, hlt, hother⟩ := hfirst
      exact ih other.rank (hn ▸ hlt) other hother rfl

theorem Applies.gives {rule : Rule} (h : d.Applies sent name version rule) :
    ∃ reason, rule.Gives name reason := by
  cases rule with
  | listed => exact h
  | unsupported => exact ⟨_, rfl⟩
  | _ => exact ⟨.deadUrl, rfl⟩

/-- A dependency is found iff it blocks after the requests for those before it. -/
theorem mem_detect_iff (hdeps : (Assoc.keys deps).Nodup)
    (hsplit : deps = before ++ (name, version) :: after) {b : Blocked} (hname : b.name = name) :
    b ∈ (d.detect deps).1 ↔ b.version = version ∧ d.Blocks (d.detect before).2 b := by
  subst hsplit
  have h : b ∈ (d.scan [] (before ++ (name, version) :: after)).1 ↔
      b.version = version ∧ d.Blocks ([] ++ (d.scan [] before).2) b := mem_scan_iff hname hdeps
  rwa [List.nil_append] at h

theorem nodup_names_detect (d : Detector) (hdeps : (Assoc.keys deps).Nodup) :
    ((d.detect deps).1.map (·.name)).Nodup := by
  have hsub := (d.detect_sublist deps).map (·.1)
  rw [List.map_map] at hsub
  exact hdeps.sublist hsub

/-- A blocking dependency carries a replacement of its own name, if any. -/
theorem oldName_of_mem_detect (hdeps : (Assoc.keys deps).Nodup) :
    ∀ b ∈ (d.detect deps).1, ∀ r ∈ b.replacement, r.oldName = b.name := by
  intro b hb r hr
  have hmem := (d.detect_sublist deps).subset (List.mem_map_of_mem hb)
  obtain ⟨before, after, hsplit⟩ := List.append_of_mem hmem
  obtain ⟨-, rule, -, -, hcarried⟩ := (mem_detect_iff hdeps hsplit rfl).mp hb
  rw [hcarried] at hr
  exact carried_oldName hr

/-- What a detector finds among dependencies. -/
structure Classifies (d : Detector) (deps : List (String × String)) : Prop where
  /-- Blocking dependencies come in the order of declaration, with their versions. -/
  ordered : ((d.detect deps).1.map fun b => (b.name, b.version)).Sublist deps
  once : ((d.detect deps).1.map (·.name)).Nodup
  /-- A dependency is found iff some rule applies to it after the requests for those before it. -/
  found : ∀ before name version after, deps = before ++ (name, version) :: after →
    ((∃ b ∈ (d.detect deps).1, b.name = name) ↔
      ∃ rule, d.Applies (d.detect before).2 name version rule)
  /-- The first rule that applies gives the reason and the replacement. -/
  blocks : ∀ before name version after, deps = before ++ (name, version) :: after →
    ∀ b : Blocked, b.name = name → (b ∈ (d.detect deps).1 ↔
      b.version = version ∧ d.Blocks (d.detect before).2 b)
  own : ∀ b ∈ (d.detect deps).1, ∀ r ∈ b.replacement, r.oldName = b.name
  /-- Each dependency that is asked for is probed once, in order, and no other one is. -/
  requests : ∃ asked : List (String × String), asked.Sublist deps ∧
    (∀ p ∈ deps, p ∈ asked ↔ d.Asks p.1 p.2) ∧
    Url.ProbesAll d.network [] (asked.map (·.2)) (d.detect deps).2 ∧
    (d.detect deps).2.length ≤ 21 * asked.length
  offline : d.checkUrls = false → (d.detect deps).2 = [] ∧
    ∀ web, ({ d with network := web } : Detector).detect deps = d.detect deps

/-- For every map of dependencies, each one that some rule applies to is found, once, in order and
for the reason of the first rule, and requests are sent for no other reason than the last rule. -/
theorem detect_classifies (d : Detector) (deps : List (String × String))
    (hdeps : (Assoc.keys deps).Nodup) : d.Classifies deps where
  ordered := d.detect_sublist deps
  once := d.nodup_names_detect hdeps
  found := by
    intro before name version after hsplit
    constructor
    · rintro ⟨b, hb, rfl⟩
      obtain ⟨rfl, rule, hrule, -, -⟩ := (mem_detect_iff hdeps hsplit rfl).mp hb
      exact ⟨rule, hrule.1⟩
    · intro hrule
      obtain ⟨rule, hfirst⟩ := exists_firstRule hrule
      obtain ⟨reason, hreason⟩ := hfirst.1.gives
      refine ⟨⟨name, version, reason, d.carried rule name version⟩, ?_, rfl⟩
      exact (mem_detect_iff hdeps hsplit rfl).mpr ⟨rfl, rule, hfirst, hreason, rfl⟩
  blocks _ _ _ _ hsplit _ hname := mem_detect_iff hdeps hsplit hname
  own := oldName_of_mem_detect hdeps
  requests := by
    obtain ⟨asked, hsub, hall, hmem, hrequests⟩ := d.scan_requests [] deps
    have hlength := hrequests.length_le
    rw [List.length_map] at hlength
    exact ⟨asked, hsub, fun p hp => ⟨hall p, hmem p hp⟩, hrequests, hlength⟩
  offline := by
    intro h
    refine ⟨?_, fun web => scan_offline h web [] deps⟩
    obtain ⟨asked, -, hall, -, hrequests⟩ := d.scan_requests [] deps
    cases asked with
    | nil => exact hrequests.unique .nil
    | cons p asked =>
      have hasks := (hall p (List.mem_cons_self ..)).1
      rw [h] at hasks
      cases hasks

/-- A web that answers the first request only. -/
def answersOnce : Web := ⟨fun sent _ => if sent = [] then .answered 200 none else .failed⟩

/-- Dependencies of which the first two name archives, and the last two are ruled out. -/
def twoArchives : List (String × String) :=
  [("left", "https://example.org/archive/left.tgz"), ("right", "https://example.org/tarball/right"),
    ("fibers", "5"), ("grpc", "1")]

theorem detect_classifies_twoArchives :
    let d := Detector.mk (some Registry.bundled) "arm64" true answersOnce
    d.Classifies twoArchives ∧
      (d.detect twoArchives).1.map (fun b => (b.name, b.reason)) =
        [("right", .deadUrl), ("fibers", .architecture), ("grpc", .architecture)] ∧
      (d.detect twoArchives).1.map (·.replacement.map (·.newName)) =
        [none, some "", some "@grpc/grpc-js"] ∧
      (d.detect twoArchives).2 =
        ["https://example.org/archive/left.tgz", "https://example.org/tarball/right"] :=
  ⟨detect_classifies _ twoArchives (by decide), by decide +kernel, by decide +kernel,
    by decide +kernel⟩

end Detector
end BuildRepair
