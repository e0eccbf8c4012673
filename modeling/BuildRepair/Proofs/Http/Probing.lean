import BuildRepair.Http.Reach
import Mathlib.Data.List.Basic

/-
  What a probe sends and what it finds out. An address as people write it is read in full, and the
  first request is for it. Each further one is for the address that the answer to the last one leads
  to, twenty times at most, and the address is reachable exactly if the last answer is one of success
  (`Visits`). For a text that cannot be read as an address nothing is sent, and it is not reachable
  (`Probes`). `probe` does just this (`probe_iff`), and for several addresses it does so one after
  the other (`ProbesAll`).
-/

namespace BuildRepair.Url

variable {web : Web} {n : Nat} {sent requests : List String} {u v : Url} {ok : Bool}
  {address : String}

/-! ## One request after the other -/

/-- A request is answered, if its address names a scheme. -/
def Answers (web : Web) (sent : List String) (u : Url) (status : Int) (location : Option String) :
    Prop :=
  u.scheme ≠ [] ∧ web.reply sent u.text = .answered status location

/-- A location that can be read. -/
def IsAscii (location : String) : Prop := ∀ c ∈ location.toList, c.toNat < 0x80

/-- The answer to a request leads to another address. -/
def Leads (web : Web) (sent : List String) (u v : Url) : Prop :=
  ∃ status location, Answers web sent u status (some location) ∧ IsAscii location ∧
    status ∈ [301, 302, 303, 307, 308] ∧ u.redirected? location = some v

/-- The answer to a request is one of success. -/
def Succeeds (web : Web) (sent : List String) (u : Url) : Prop :=
  ∃ status location, Answers web sent u status location ∧ (200 ≤ status ∧ status < 300) ∧
    ∀ l, location = some l → IsAscii l

/-- The requests from an address on, at most a number of them, and whether the last one succeeds. -/
inductive Visits (web : Web) : Nat → List String → Url → Bool → List String → Prop
  /-- A redirect beyond the limit is not followed. -/
  | spent {sent : List String} {u : Url} : Visits web 0 sent u false []
  | stops {n : Nat} {sent : List String} {u : Url} {ok : Bool} (hend : ∀ v, ¬ Leads web sent u v)
      (hok : ok = true ↔ Succeeds web sent u) : Visits web (n + 1) sent u ok [u.text]
  | onward {n : Nat} {sent requests : List String} {u v : Url} {ok : Bool}
      (h : Leads web sent u v) (hrest : Visits web n (sent ++ [u.text]) v ok requests) :
      Visits web (n + 1) sent u ok (u.text :: requests)

theorem Answers.unique {status status' : Int} {location location' : Option String}
    (h : Answers web sent u status location) (h' : Answers web sent u status' location') :
    status = status' ∧ location = location' := by
  cases h.2.symm.trans h'.2
  exact ⟨rfl, rfl⟩

theorem Leads.unique {v' : Url} (h : Leads web sent u v) (h' : Leads web sent u v') : v = v' := by
  obtain ⟨_, location, hanswer, -, -, hv⟩ := h
  obtain ⟨_, location', hanswer', -, -, hv'⟩ := h'
  cases (hanswer.unique hanswer').2
  exact Option.some.inj (hv.symm.trans hv')

/-- The answers decide which requests are sent and what is found. -/
theorem Visits.unique {ok' : Bool} {requests' : List String} (h : Visits web n sent u ok requests)
    (h' : Visits web n sent u ok' requests') : ok = ok' ∧ requests = requests' := by
  induction h generalizing ok' requests' with
  | spent =>
    cases h'
    exact ⟨rfl, rfl⟩
  | stops hend hok =>
    cases h' with
    | stops _ hok' => exact ⟨Bool.eq_iff_iff.mpr (hok.trans hok'.symm), rfl⟩
    | onward hleads _ => exact absurd hleads (hend _)
  | onward hleads _ ih =>
    cases h' with
    | stops hend _ => exact absurd hleads (hend _)
    | onward hleads' hrest' =>
      cases hleads.unique hleads'
      obtain ⟨rfl, rfl⟩ := ih hrest'
      exact ⟨rfl, rfl⟩

theorem Visits.length_le (h : Visits web n sent u ok requests) : requests.length ≤ n := by
  induction h with
  | spent => exact Nat.le_refl 0
  | stops => exact Nat.succ_le_succ (Nat.zero_le _)
  | onward _ _ ih => exact Nat.succ_le_succ ih

theorem isAscii_iff {location : String} :
    location.toList.any (0x80 ≤ ·.toNat) = false ↔ IsAscii location := by
  unfold IsAscii
  simp

theorem isSuccess_iff {status : Int} :
    Reply.isSuccess status = true ↔ 200 ≤ status ∧ status < 300 := by
  simp [Reply.isSuccess]

theorem follow_of_leads (h : Leads web sent u v) :
    follow web (n + 1) sent u =
      ((follow web n (sent ++ [u.text]) v).1, u.text :: (follow web n (sent ++ [u.text]) v).2) := by
  obtain ⟨status, location, ⟨hscheme, hreply⟩, hascii, hstatus, hv⟩ := h
  have hredirects : Reply.redirects.contains status = true := List.contains_iff_mem.mpr hstatus
  simp only [follow, if_neg hscheme, hreply, isAscii_iff.mpr hascii, hredirects, hv,
    Bool.false_eq_true, if_false, if_true]

/-- Where the answer does not lead on, it is the last one. -/
theorem follow_of_stops (hend : ∀ v, ¬ Leads web sent u v) :
    (follow web (n + 1) sent u).2 = [u.text] ∧
      ((follow web (n + 1) sent u).1 = true ↔ Succeeds web sent u) := by
  by_cases hscheme : u.scheme = []
  · simp [follow, hscheme, Succeeds, Answers]
  have hanswers {status : Int} {location : Option String}
      (h : web.reply sent u.text = .answered status location) :
      Succeeds web sent u ↔ (200 ≤ status ∧ status < 300) ∧ ∀ l, location = some l → IsAscii l := by
    constructor
    · rintro ⟨_, _, hanswer, hrange, hascii⟩
      obtain ⟨rfl, rfl⟩ := hanswer.unique ⟨hscheme, h⟩
      exact ⟨hrange, hascii⟩
    · rintro ⟨hrange, hascii⟩
      exact ⟨status, location, ⟨hscheme, h⟩, hrange, hascii⟩
  simp only [follow, if_neg hscheme]
  cases hreply : web.reply sent u.text with
  | failed => simp [Succeeds, Answers, hreply]
  | answered status location =>
    rw [hanswers hreply]
    cases location with
    | none => simp [isSuccess_iff]
    | some location =>
      dsimp only
      by_cases hascii : IsAscii location
      · rw [isAscii_iff.mpr hascii]
        by_cases hstatus : status ∈ Reply.redirects
        · have hrange : ¬ (200 ≤ status ∧ status < 300) := by
            simp only [Reply.redirects, List.mem_cons, List.not_mem_nil, or_false] at hstatus
            omega
          cases hv : u.redirected? location with
          | none => simp [hstatus, hrange]
          | some v => exact absurd ⟨status, location, ⟨hscheme, hreply⟩, hascii, hstatus, hv⟩ (hend v)
        · simp [hstatus, hascii, isSuccess_iff]
      · have hany : location.toList.any (0x80 ≤ ·.toNat) = true :=
          Bool.not_eq_false _ ▸ mt isAscii_iff.mp hascii
        simp [hany, hascii]

theorem follow_visits (web : Web) (n : Nat) (sent : List String) (u : Url) :
    Visits web n sent u (follow web n sent u).1 (follow web n sent u).2 := by
  induction n generalizing sent u with
  | zero => exact .spent
  | succ n ih =>
    by_cases hlead : ∃ v, Leads web sent u v
    · obtain ⟨v, hv⟩ := hlead
      rw [follow_of_leads hv]
      exact .onward hv (ih _ _)
    · obtain ⟨hrequests, hok⟩ := follow_of_stops (n := n) (not_exists.mp hlead)
      rw [hrequests]
      exact .stops (not_exists.mp hlead) hok

/-! ## Addresses as people write them -/

/-- An address in full: a text that does not begin as one does is reached by `https`. -/
def InFull (address text : String) : Prop :=
  "http".toList <+: address.toList ∧ text = address ∨
    ¬ "http".toList <+: address.toList ∧ text = "https://" ++ address

/-- The address that is asked for first: the one that the text denotes, which is a path from the
root if scheme or host are left out. It is none if the host cannot be read. -/
def Begins (address : String) (u : Url) : Prop :=
  ∃ text w, InFull address text ∧ ofString? text = some w ∧ isReadableHost w.host = true ∧
    u = if w.isAbsolute then w else w.fromRoot

/-- What a probe of an address finds and the requests that it sends, after others. -/
inductive Probes (web : Web) (sent : List String) (address : String) : Bool → List String → Prop
  | unreadable (h : ∀ u, ¬ Begins address u) : Probes web sent address false []
  | asked {u : Url} {ok : Bool} {requests : List String} (h : Begins address u)
      (hvisits : Visits web 21 sent u ok requests) : Probes web sent address ok requests

theorem inFull_iff {text : String} : InFull address text ↔ text = fullText address := by
  unfold InFull fullText
  rw [← List.isPrefixOf_iff_prefix]
  split <;> simp_all

theorem begins_iff : Begins address u ↔
    ∃ w, ofString? (fullText address) = some w ∧ isReadableHost w.host = true ∧
      u = if w.isAbsolute then w else w.fromRoot := by
  unfold Begins
  simp only [inFull_iff]
  exact ⟨fun ⟨_, w, htext, h⟩ => ⟨w, htext ▸ h⟩, fun ⟨w, h⟩ => ⟨_, w, rfl, h⟩⟩

theorem Begins.unique (h : Begins address u) (h' : Begins address v) : u = v := by
  obtain ⟨w, hw, -, rfl⟩ := begins_iff.mp h
  obtain ⟨w', hw', -, rfl⟩ := begins_iff.mp h'
  cases hw.symm.trans hw'
  rfl

theorem Probes.unique {ok' : Bool} {requests' : List String}
    (h : Probes web sent address ok requests) (h' : Probes web sent address ok' requests') :
    ok = ok' ∧ requests = requests' := by
  cases h with
  | unreadable h =>
    cases h' with
    | unreadable => exact ⟨rfl, rfl⟩
    | asked hbegins => exact absurd hbegins (h _)
  | asked hbegins hvisits =>
    cases h' with
    | unreadable h => exact absurd hbegins (h _)
    | asked hbegins' hvisits' =>
      cases hbegins.unique hbegins'
      exact hvisits.unique hvisits'

/-- A probe is sent one request for its address and at most one more for each of twenty redirects;
none at all if the address cannot be read. -/
theorem Probes.length_le (h : Probes web sent address ok requests) : requests.length ≤ 21 := by
  cases h with
  | unreadable => exact Nat.zero_le _
  | asked _ hvisits => exact hvisits.length_le

theorem probe_probes (web : Web) (sent : List String) (address : String) :
    Probes web sent address (probe web sent address).1 (probe web sent address).2 := by
  unfold probe
  cases hw : ofString? (fullText address) with
  | none =>
    refine .unreadable fun u hu => ?_
    obtain ⟨w, hsome, -⟩ := begins_iff.mp hu
    cases hw.symm.trans hsome
  | some w =>
    dsimp only
    split
    · next hhost => exact .asked (begins_iff.mpr ⟨w, hw, hhost, rfl⟩) (follow_visits ..)
    · next hhost =>
      refine .unreadable fun u hu => ?_
      obtain ⟨w', hsome, hhost', -⟩ := begins_iff.mp hu
      cases hw.symm.trans hsome
      exact hhost hhost'

/-- The probe finds and sends what the answers say, and nothing else. -/
theorem probe_iff : Probes web sent address ok requests ↔
    probe web sent address = (ok, requests) := by
  have hprobe := probe_probes web sent address
  constructor
  · intro h
    obtain ⟨hok, hrequests⟩ := hprobe.unique h
    exact Prod.ext hok hrequests
  · intro h
    rw [h] at hprobe
    exact hprobe

/-! ## Several addresses -/

/-- The requests that are sent for several addresses, one address after the other. -/
inductive ProbesAll (web : Web) : List String → List String → List String → Prop
  | nil {sent : List String} : ProbesAll web sent [] []
  | cons {sent requests more rest : List String} {address : String} {ok : Bool}
      (h : Probes web sent address ok requests)
      (hrest : ProbesAll web (sent ++ requests) rest more) :
      ProbesAll web sent (address :: rest) (requests ++ more)

theorem ProbesAll.unique {addresses requests' : List String}
    (h : ProbesAll web sent addresses requests) (h' : ProbesAll web sent addresses requests') :
    requests = requests' := by
  induction h generalizing requests' with
  | nil =>
    cases h'
    rfl
  | cons hfirst _ ih =>
    cases h' with
    | cons hfirst' hrest' =>
      obtain ⟨-, rfl⟩ := hfirst.unique hfirst'
      rw [ih hrest']

theorem ProbesAll.length_le {addresses : List String} (h : ProbesAll web sent addresses requests) :
    requests.length ≤ 21 * addresses.length := by
  induction h with
  | nil => exact Nat.zero_le _
  | cons hfirst _ ih =>
    have hlength := hfirst.length_le
    rw [List.length_append, List.length_cons]
    omega

end BuildRepair.Url
