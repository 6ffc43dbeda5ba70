import CallSnapshot.Proofs.Files.Appending
import CallSnapshot.Proofs.Json.OneLine
import CallSnapshot.Proofs.Settings.Loading

/-!
Settings that are saved are loaded as they were. Their text has the lines of its layout and no returns, so that
reading it as a file changes nothing, and each of the settings has data that are read as its value.
-/

namespace CallSnapshot.Config

open Acting
open Codec (ofJson ofJsonMembers ofJsonMembers_eq)

variable {c : Config} {fs : Files} {p : Path}

/-- Settings of the types that they are declared with. -/
structure Typed (c : Config) : Prop where
  cors : ∃ s, c.cors = .str s
  pattern : ∃ s, c.pattern = .str s
  logName : ∃ s, c.logName = .str s
  tolerance : ∃ ts : List (String × Binary64), c.tolerance = .dict (ts.map fun t => (.str t.1, .float t.2)) ∧
    (ts.map Prod.fst).Nodup ∧ ∀ t ∈ ts, t.2.Valid
  verbose : ∃ b, c.verbose = .bool b
  quiet : ∃ b, c.quiet = .bool b

section Data

def fractions (ts : List (String × Binary64)) : List (String × Json) := ts.map fun t => (t.1, .float t.2)

lemma plainData_fractions (ts : List (String × Binary64)) :
    plainData (.dict (ts.map fun t => (.str t.1, .float t.2))) = .ok (.obj (fractions ts)) := by
  have hentries : plainEntries (ts.map fun t => (.str t.1, .float t.2)) = .ok (fractions ts) := by
    induction ts with
    | nil => rfl
    | cons t ts ih =>
      rw [List.map_cons, plainEntries, plainData, ih]
      rfl
  rw [plainData, hentries]
  rfl

variable {ts : List (String × Binary64)}

lemma ofJson_fractions : ofJson (.obj (fractions ts)) = .dict (ts.map fun t => (.str t.1, .float t.2)) := by
  change Value.dict (ofJsonMembers (fractions ts)) = _
  rw [ofJsonMembers_eq, fractions, List.map_map, List.map_map]
  rfl

lemma faithful_fractions (hkeys : (ts.map Prod.fst).Nodup) (hts : ∀ t ∈ ts, t.2.Valid) :
    (Json.obj (fractions ts)).Faithful := by
  refine Json.faithful_obj.mpr ⟨?_, ?_⟩
  · rwa [fractions, List.map_map]
  · rw [fractions, List.forall_mem_map]
    exact hts

lemma printable_fractions : Json.PrintableMembers (fractions ts) := by
  rw [Json.printableMembers_iff, fractions, List.forall_mem_map]
  exact fun _ _ => trivial

end Data

lemma Typed.exists_data (ht : c.Typed) (hc : c.Valid) : ∃ members, plainData c.toValue = .ok (.obj members) ∧
    (Json.obj members).Faithful ∧ ((Json.obj members).Printable ↔ Numeral.Short c.timeout) ∧ SetBy members c := by
  obtain ⟨⟨cors, hcors⟩, ⟨pattern, hpattern⟩, ⟨logName, hlogName⟩, ⟨ts, htolerance, hkeys, hts⟩, ⟨verbose, hverbose⟩,
    ⟨quiet, hquiet⟩⟩ := ht
  refine ⟨[("port", .int c.port), ("timeout", .int c.timeout), ("cors_origin", .str cors), ("pattern", .str pattern),
    ("snapshot_file", .str logName), ("tolerance", .obj (fractions ts)), ("verbose", .bool verbose),
    ("quiet", .bool quiet)], ?_, ?_, ?_, ?_⟩
  · have hdata := plainData_fractions ts
    rw [toValue, members, hcors, hpattern, hlogName, htolerance, hverbose, hquiet]
    generalize (Value.dict (ts.map fun t => (.str t.1, .float t.2))) = v at hdata ⊢
    simp only [List.map_cons, List.map_nil, plainData, plainEntries, hdata, Value.plainText, ok_bind]
  · refine Json.faithful_obj.mpr ⟨by simp, ?_⟩
    simp only [List.forall_mem_cons, List.not_mem_nil, IsEmpty.forall_iff, implies_true, and_true]
    exact ⟨trivial, trivial, trivial, trivial, trivial, faithful_fractions hkeys hts, trivial, trivial⟩
  · have hport : Numeral.Short c.port := by
      have := hc.port
      exact Numeral.short_of_lt (k := 5) (by decide) (by omega)
    simp only [Json.Printable, Json.PrintableMembers, printable_fractions, hport, true_and, and_true]
  · have hport : Options.port (.int c.port) = .ok c.port := Options.port_eq_ok.mpr ⟨⟨rfl, rfl⟩, hc.port⟩
    have htimeout : Options.timeout (.int c.timeout) = .ok c.timeout := Options.timeout_eq_ok.mpr ⟨rfl, hc.timeout⟩
    exact ⟨hport, htimeout, hcors, hpattern, hlogName, htolerance.trans ofJson_fractions.symm, hverbose, hquiet⟩

def place (project : Path) (given : Option Path) : Path := given.getD (project.child configName)

end CallSnapshot.Config
