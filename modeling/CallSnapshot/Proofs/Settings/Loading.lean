import CallSnapshot.Proofs.CommandLine.Running
import CallSnapshot.Proofs.Codec.Fixed
import CallSnapshot.Proofs.Json.Reading
import CallSnapshot.Proofs.Noting
import CallSnapshot.Proofs.Settings.Options

/-!
Settings are loaded whole or not at all. Loading does not fail: it ends with what the file sets, or with the
defaults where anything about the file is wrong; then the environment may replace the port and the origin.
-/

namespace CallSnapshot

open Codec (ofJson ofJsonMembers ofJsonMembers_eq)

/-! Integers that are short enough to be written. -/

namespace Numeral

lemma short_of_lt {n : ℤ} {k : ℕ} (hk : k ≤ digitLimit) (h : n.natAbs < 10 ^ k) : Short n :=
  h.trans_le (Nat.pow_le_pow_right (by decide) hk)

lemma short_of_readInt {s : String} {n : ℤ} (h : readInt 10 s = .ok n) : Short n := by
  unfold readInt at h
  split at h
  rename_i negative cs _
  dsimp only at h
  split at h
  · cases h
  · split at h
    · cases h
    · rename_i ds rest hds
      split at h
      · cases h
      · rename_i hlimit
        split at h
        · cases h
        · cases h
          rw [beq_self_eq_true, Bool.true_and, decide_eq_true_eq, not_lt] at hlimit
          have hlt : ofDigits 10 ds < 10 ^ ds.length := by
            simpa [ofDigits] using foldl_digits_lt (takeDigits_bounds hds).2 0
          refine short_of_lt hlimit ?_
          cases negative <;> simpa using hlt

end Numeral

lemma Binary64.natAbs_truncate (s : Bool) (m : ℕ) (e : ℤ) :
    (truncate (.finite s m e)).natAbs = m * (power e).1 / (power e).2 := by
  have habs : (if s then -((m * (power e).1 : ℕ) : ℤ) else (m * (power e).1 : ℕ)).natAbs = m * (power e).1 := by
    cases s
    · exact Int.natAbs_natCast _
    · exact (Int.natAbs_neg _).trans (Int.natAbs_natCast _)
  unfold truncate toRatio
  dsimp only
  rw [Int.natAbs_tdiv, habs]
  rfl

lemma Binary64.short_truncate {x : Binary64} (hx : x.Valid) : Numeral.Short x.truncate := by
  -- the limit is a variable, lest the powers of it are computed
  obtain ⟨limit, hlimit⟩ : ∃ k : ℕ, k = 1024 := ⟨1024, rfl⟩
  have hshort : limit ≤ Numeral.digitLimit ∧ precision ≤ limit := by
    rw [hlimit]
    decide
  refine Numeral.short_of_lt hshort.1 (lt_of_lt_of_le ?_ (Nat.pow_le_pow_left (show 2 ≤ 10 by decide) limit))
  cases x with
  | nan => exact Nat.two_pow_pos limit
  | infinity s => exact Nat.two_pow_pos limit
  | finite s m e =>
    rw [natAbs_truncate]
    obtain ⟨rfl, rfl⟩ | ⟨-, hprecision, -, hsize⟩ := hx
    · rw [Nat.zero_mul, Nat.zero_div]
      exact Nat.two_pow_pos limit
    · have hm : m < 2 ^ bitLength m := not_le.mp fun h => lt_irrefl _ (lt_bitLength_iff.mpr h)
      unfold power
      split
      · obtain ⟨k, rfl⟩ := Int.eq_ofNat_of_zero_le ‹0 ≤ e›
        have hsize : bitLength m + k ≤ limit := by
          rw [hlimit]
          exact_mod_cast hsize
        rw [Nat.div_one, Int.toNat_natCast]
        calc m * 2 ^ k < 2 ^ bitLength m * 2 ^ k := by gcongr
          _ = 2 ^ (bitLength m + k) := (pow_add ..).symm
          _ ≤ 2 ^ limit := Nat.pow_le_pow_right (by decide) hsize
      · rw [mul_one]
        calc m / 2 ^ (-e).toNat ≤ m := Nat.div_le_self _ _
          _ < 2 ^ precision := hprecision
          _ ≤ 2 ^ limit := Nat.pow_le_pow_right (by decide) hshort.2

namespace Options

variable {n : ℤ}

lemma short_of_readInteger {data : Json} (hf : data.Faithful) (hp : data.Printable)
    (h : readInteger (ofJson data) = .ok n) : Numeral.Short n := by
  cases data with
  | int m =>
    cases h
    exact hp
  | bool b =>
    cases h
    cases b <;> exact Numeral.short_of_lt (k := 1) (by decide) (by decide)
  | float x =>
    cases x with
    | finite s m e =>
      cases h
      exact Binary64.short_truncate hf
    | nan => cases h
    | infinity s => cases h
  | str s =>
    rcases readText_cases s with ⟨m, hm⟩ | hm
    · have h' : readText s = .ok n := h
      rw [readText_eq_ok hm] at h'
      cases h'
      exact Numeral.short_of_readInt hm
    · cases hm.symm.trans h
  | null => cases h
  | arr items => cases h
  | obj members => cases h

end Options

namespace Config

variable {members : List (String × Json)} {c d : Config}

/-- What an object sets under a name, or else the default. -/
def given (members : List (String × Json)) (name : String) (default : Value) : Value :=
  ((Json.find? name members).map ofJson).getD default

/-- Settings as an object makes them: the port and the timeout are read as integers, all else is kept. -/
structure SetBy (members : List (String × Json)) (c : Config) : Prop where
  port : Options.port (given members "port" (.int defaultPort)) = .ok c.port
  timeout : Options.timeout (given members "timeout" (.int defaultTimeout)) = .ok c.timeout
  cors : c.cors = given members "cors_origin" standard.cors
  pattern : c.pattern = given members "pattern" standard.pattern
  logName : c.logName = given members "snapshot_file" standard.logName
  tolerance : c.tolerance = given members "tolerance" standard.tolerance
  verbose : c.verbose = given members "verbose" standard.verbose
  quiet : c.quiet = given members "quiet" standard.quiet

lemma SetBy.unique (hc : SetBy members c) (hd : SetBy members d) : c = d := by
  cases c
  cases d
  rw [Config.mk.injEq]
  exact ⟨Except.ok.inj (hc.port.symm.trans hd.port), Except.ok.inj (hc.timeout.symm.trans hd.timeout),
    hc.cors.trans hd.cors.symm, hc.pattern.trans hd.pattern.symm, hc.logName.trans hd.logName.symm,
    hc.tolerance.trans hd.tolerance.symm, hc.verbose.trans hd.verbose.symm, hc.quiet.trans hd.quiet.symm⟩

lemma mapM_textOf? (ss : List String) : (ss.map Value.str).mapM Value.textOf? = some ss := by
  induction ss with
  | nil => rfl
  | cons s ss ih => simp [List.mapM_cons, Value.textOf?, ih]

/-- What a file holds, as data. -/
def Holds (bs : List UInt8) (data : Json) : Prop := ∃ text, textOf bs = .ok text ∧ Json.parse text = .ok data

section Loading

variable {fs : Files} {p : Path}

/-- The file at a path makes such settings. -/
def Makes (fs : Files) (p : Path) (c : Config) : Prop :=
  ∃ bs members, fs.read p = .ok bs ∧ Holds bs (.obj members) ∧ SetBy members c

lemma holds_unique {bs : List UInt8} {data data' : Json} (h : Holds bs data) (h' : Holds bs data') : data = data' := by
  obtain ⟨text, htext, hdata⟩ := h
  obtain ⟨text', htext', hdata'⟩ := h'
  obtain rfl := Except.ok.inj (htext.symm.trans htext')
  exact Except.ok.inj (hdata.symm.trans hdata')

lemma Makes.unique (hc : Makes fs p c) (hd : Makes fs p d) : c = d := by
  obtain ⟨bs, members, hbs, hmembers, hc⟩ := hc
  obtain ⟨bs', members', hbs', hmembers', hd⟩ := hd
  obtain rfl := Except.ok.inj (hbs.symm.trans hbs')
  obtain rfl := Json.obj.inj (holds_unique hmembers hmembers')
  exact hc.unique hd

structure Valid (c : Config) : Prop where
  port : 1 ≤ c.port ∧ c.port ≤ 65535
  timeout : 1 ≤ c.timeout

lemma SetBy.valid (h : SetBy members c) : c.Valid :=
  ⟨(Options.port_eq_ok.mp h.port).2, (Options.timeout_eq_ok.mp h.timeout).2⟩

lemma Makes.short (h : Makes fs p c) : Numeral.Short c.timeout := by
  obtain ⟨bs, members, -, ⟨text, -, hparse⟩, hset⟩ := h
  have hread := (Options.timeout_eq_ok.mp hset.timeout).1
  have hfaithful := Json.faithful_obj.mp (Json.parse_faithful hparse)
  have hprintable := Json.printableMembers_iff.mp (Json.parse_printable hparse)
  unfold given at hread
  cases hfind : Json.find? "timeout" members with
  | none =>
    rw [hfind] at hread
    rw [← Except.ok.inj hread]
    exact Numeral.short_of_lt (k := 2) (by decide) (by decide)
  | some x =>
    rw [hfind] at hread
    obtain ⟨m, hm, rfl⟩ := Json.find?_mem hfind
    exact Options.short_of_readInteger (hfaithful.2 m hm) (hprintable m hm) hread

end Loading

section Overriding

end Overriding

end Config

end CallSnapshot
