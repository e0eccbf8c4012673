import BuildRepair.Diagnosis.Extract
import BuildRepair.Proofs.Text.Searching
import Mathlib.Data.Option.Basic

/-
  The repository of a dependency that is fetched through git (`mention_hostedAddress`). The first
  address on the host counts: both spellings of the host begin with a letter that does not come
  again in them, so none begins in the text before it and goes on into it
  (`find_hostedRepository`). The name of the repository goes as far as its characters do
  (`isHostedChar_eq_false`), and the ending of bare repositories is taken off it once
  (`withoutGitEnding_append`).
-/

namespace BuildRepair

open Text

variable {c : Char} {name s before after : List Char}

/-! ## Addresses -/

/-- The ways to write the host in front of an owner. -/
def hostForms : List (List Char) :=
  ["github.com/".toList, "github.com:".toList, "github:".toList]

/-- An address of a repository on the host, with the ending of bare repositories or without it. -/
structure HostedAddress where
  host : List Char
  owner : List Char
  name : List Char
  ending : List Char
  host_mem : host ∈ hostForms
  owner_ne_nil : owner ≠ []
  owner_hosted : owner.all isHostedChar = true
  name_ne_nil : name ≠ []
  name_hosted : name.all isHostedChar = true
  name_bare : ¬ ".git".toList <:+ name
  ending_mem : ending ∈ [[], ".git".toList]

/-- An address as it is written. -/
def HostedAddress.text (a : HostedAddress) : List Char :=
  a.host ++ a.owner ++ '/' :: a.name ++ a.ending

/-- What ends an address is no part of a name. -/
theorem isHostedChar_eq_false (h : c = '#' ∨ isBlank c = true ∨ isQuote c = true) :
    isHostedChar c = false := by
  -- the blanks are given by their numbers, quotes and the hash by themselves
  have hblanks : ∀ n ∈ List.range' 0x9 5 ++ List.range' 0x1C 5 ++ List.range' 0x2000 11 ++
      [0x85, 0xA0, 0x1680, 0x2028, 0x2029, 0x202F, 0x205F, 0x3000],
      isHostedChar (Char.ofNat n) = false := by
    decide +kernel
  rcases h with rfl | h | h
  · decide
  · have hmem : c.toNat ∈ List.range' 0x9 5 ++ List.range' 0x1C 5 ++ List.range' 0x2000 11 ++
        [0x85, 0xA0, 0x1680, 0x2028, 0x2029, 0x202F, 0x205F, 0x3000] := by
      simp only [isBlank, Bool.or_eq_true, Bool.and_eq_true, decide_eq_true_eq, beq_iff_eq] at h
      simp only [List.mem_append, List.mem_range'_1, List.mem_cons, List.not_mem_nil]
      omega
    have hchar := hblanks _ hmem
    rwa [Char.ofNat_toNat] at hchar
  · simp only [isQuote, Bool.or_eq_true, beq_iff_eq] at h
    rcases h with rfl | rfl <;> decide

/-! ## The name of a repository -/

/-- The ending of bare repositories is taken off a name once. -/
theorem withoutGitEnding_append (h : name ≠ []) :
    withoutGitEnding (name ++ ".git".toList) = name := by
  have hlength : (name ++ ".git".toList).length - 4 = name.length := by simp
  have hne : name.isEmpty = false := List.isEmpty_eq_false_iff.mpr h
  unfold withoutGitEnding
  simp only [hlength, List.take_left, List.drop_left, hne]
  rfl

theorem withoutGitEnding_of_bare (h : ¬ ".git".toList <:+ name) : withoutGitEnding name = name := by
  have hdrop : (name.drop (name.length - 4) == ['.', 'g', 'i', 't']) = false := by
    rw [beq_eq_false_iff_ne]
    intro heq
    have hsuffix : name.drop (name.length - 4) <:+ name := List.drop_suffix _ name
    rw [heq] at hsuffix
    exact h hsuffix
  unfold withoutGitEnding
  simp only [hdrop, Bool.and_false]
  rfl

theorem HostedAddress.withoutGitEnding_eq (a : HostedAddress) :
    withoutGitEnding (a.name ++ a.ending) = a.name := by
  have hending := a.ending_mem
  rw [List.mem_pair] at hending
  rcases hending with h | h
  · rw [h, List.append_nil, withoutGitEnding_of_bare a.name_bare]
  · rw [h, withoutGitEnding_append a.name_ne_nil]

/-! ## The first address -/

/-- An address is read only where one of the spellings of the host begins. -/
theorem host_of_hostedRepository (h : hostedRepository s = some name) :
    "github.com".toList <+: s ∨ "github:".toList <+: s := by
  obtain ⟨r, hhost, -⟩ := Option.bind_eq_some_iff.mp h
  cases hlong : literal "github.com".toList s with
  | some r => exact .inl ⟨r, (literal_eq_some_iff.mp hlong).symm⟩
  | none =>
    rw [hlong] at hhost
    exact .inr ⟨r, (literal_eq_some_iff.mp hhost).symm⟩

theorem hostedRepository_text (a : HostedAddress)
    (hafter : ∀ c ∈ after.head?, c = '#' ∨ isBlank c = true ∨ isQuote c = true) :
    hostedRepository (a.text ++ after) = some a.name := by
  have hhost : ∀ s, ((literal "github.com".toList (a.host ++ s)).bind
      (one fun c => c == '/' || c == ':') <|> literal "github:".toList (a.host ++ s)) = some s := by
    intro s
    have hmem := a.host_mem
    simp only [hostForms, List.mem_cons, List.not_mem_nil, or_false] at hmem
    rcases hmem with h | h | h
    all_goals
      rw [h]
      rfl
  have howner : ∀ s, skip isHostedChar (a.owner ++ '/' :: s) = some ('/' :: s) :=
    fun s => skip_eq_some_iff.mpr ⟨a.owner, rfl, a.owner_ne_nil,
      List.all_eq_true.mp a.owner_hosted, fun c hc => by obtain rfl := Option.some.inj hc; decide⟩
  have hslash : ∀ s, literal ['/'] ('/' :: s) = some s := fun s => rfl
  have hending : ∀ c ∈ a.ending, isHostedChar c = true := by
    have hall : [[], ".git".toList].all (·.all isHostedChar) = true := by decide
    exact List.all_eq_true.mp (List.all_eq_true.mp hall _ a.ending_mem)
  have hname : run isHostedChar (a.name ++ a.ending ++ after) =
      some (a.name ++ a.ending, after) := by
    refine run_eq_some_iff.mpr ⟨rfl, by simp [a.name_ne_nil], fun c hc => ?_,
      fun c hc => isHostedChar_eq_false (hafter c hc)⟩
    exact (List.mem_append.mp hc).elim (List.all_eq_true.mp a.name_hosted c) (hending c)
  have hends : endsAddress after = true := by
    unfold endsAddress
    cases hhead : after.head? with
    | none => rfl
    | some c => simpa [or_assoc] using hafter c hhead
  have htext : a.text ++ after = a.host ++ (a.owner ++ '/' :: (a.name ++ a.ending ++ after)) := by
    unfold HostedAddress.text
    simp only [List.append_assoc, List.cons_append]
  rw [htext]
  unfold hostedRepository
  simp only [hhost, howner, hslash, hname, Option.bind_eq_bind, Option.bind_some]
  exact Option.bind_eq_some_iff.mpr ⟨(), (Option.guard_eq_some' _).mpr hends,
    congrArg some a.withoutGitEnding_eq⟩

theorem find_hostedRepository (a : HostedAddress) (hlong : ¬ "github.com".toList <:+: before)
    (hshort : ¬ "github:".toList <:+: before)
    (hafter : ∀ c ∈ after.head?, c = '#' ∨ isBlank c = true ∨ isQuote c = true) :
    find hostedRepository (before ++ (a.text ++ after)) = some a.name := by
  have hhead : (a.text ++ after).head? = some 'g' := by
    have hmem := a.host_mem
    simp only [hostForms, List.mem_cons, List.not_mem_nil, or_false] at hmem
    unfold HostedAddress.text
    rcases hmem with h | h | h
    all_goals
      rw [h]
      rfl
  rw [find_append]
  · exact find_of_here (hostedRepository_text a hafter)
  · intro t hne ht
    cases hread : hostedRepository (t ++ (a.text ++ after)) with
    | none => rfl
    | some name =>
      -- an earlier address lies in `before`, or begins there and goes on into the one read
      exfalso
      rcases host_of_hostedRepository hread with h | h
      · exact not_prefix_of_not_infix (w := "ithub.com".toList) (by decide) hlong hhead hne ht h
      · exact not_prefix_of_not_infix (w := "ithub:".toList) (by decide) hshort hhead hne ht h

/-- A message about a git dependency tells the repository of the first address on the host, full
stops included and without the ending of bare repositories. -/
theorem mention_hostedAddress (a : HostedAddress) (hlong : ¬ "github.com".toList <:+: before)
    (hshort : ¬ "github:".toList <:+: before)
    (hafter : ∀ c ∈ after.head?, c = '#' ∨ isBlank c = true ∨ isQuote c = true) :
    mention .gitDependency (before ++ a.text ++ after) = some { name := String.ofList a.name } := by
  show gitMention _ = _
  unfold gitMention
  rw [List.append_assoc, find_hostedRepository a hlong hshort hafter]
  rfl

/-- An address with full stops in the name, followed by a second one. -/
theorem mention_hostedAddress_dotted :
    mention .gitDependency
        "npm ERR! git+ssh://git@github.com:some.user/private.git.lib.git#v1 github:a/b".toList =
      some { name := "private.git.lib" } := by
  let a : HostedAddress :=
    { host := "github.com:".toList
      owner := "some.user".toList
      name := "private.git.lib".toList
      ending := ".git".toList
      host_mem := by decide
      owner_ne_nil := by decide
      owner_hosted := by decide
      name_ne_nil := by decide
      name_hosted := by decide
      name_bare := by decide
      ending_mem := by decide }
  have hline : "npm ERR! git+ssh://git@".toList ++ a.text ++ "#v1 github:a/b".toList =
      "npm ERR! git+ssh://git@github.com:some.user/private.git.lib.git#v1 github:a/b".toList := by
    decide +kernel
  rw [← hline]
  exact mention_hostedAddress a (by decide) (by decide)
    fun c hc => .inl (Option.some.inj hc).symm

end BuildRepair
