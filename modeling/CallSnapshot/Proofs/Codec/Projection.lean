import CallSnapshot.Proofs.Codec.Fixed

/-!
Normalizing a value, that is writing it and reading it back, gives a value of the basic kinds that
normalizing leaves as it is, but for the order in which the items of its sets come.
-/

namespace CallSnapshot.Codec

open Value (Same)

lemma normalize_legible {heap : Heap} {v : Value} {data : Json} (h : encode heap v = .ok data)
    (hl : data.Legible) : normalize heap v = decode none data := by
  obtain ⟨s, hs⟩ := (Json.print_eq_ok (l := Json.compact)).mpr hl.printable
  have hdumps : dumps heap v = .ok s := by rw [dumps, h, ok_bind, hs]
  rw [normalize, hdumps, settle_ok, pure_bind, Json.parse_print hl.faithful hs, settle_ok, pure_bind]

lemma loads_dumps {mode : Mode} {heap : Heap} {v : Value} {data : Json} {s : String} (hh : ∀ x ∈ heap, x.Sound)
    (hv : v.Sound) (h : encode heap v = .ok data) (hs : dumps heap v = .ok s) : loads mode s = decode mode data := by
  rw [dumps, h, ok_bind] at hs
  rw [loads, Json.parse_print (faithful_encode hh hv h) hs, settle_ok, pure_bind]

lemma normalize_eq_ok {heap : Heap} {v w : Value} (hh : ∀ x ∈ heap, x.Sound) (hv : v.Sound)
    (h : (normalize heap v).start.1 = .ok w) :
    ∃ data, encode heap v = .ok data ∧ data.Legible ∧ (decode none data).start.1 = .ok w := by
  obtain ⟨s, hs⟩ : ∃ s, dumps heap v = .ok s := by
    cases hd : dumps heap v with
    | error f =>
      rw [normalize, hd] at h
      cases h
    | ok s => exact ⟨s, rfl⟩
  obtain ⟨data, hdata, hprint⟩ := bind_eq_ok.mp hs
  have hlegible : data.Legible := ⟨faithful_encode hh hv hdata, Json.print_eq_ok.mp ⟨s, hprint⟩⟩
  exact ⟨data, hdata, hlegible, normalize_legible hdata hlegible ▸ h⟩

lemma fixed_normalize {heap : Heap} {v w : Value} (hh : ∀ x ∈ heap, x.Sound) (hv : v.Sound)
    (h : (normalize heap v).start.1 = .ok w) : w.Fixed := by
  obtain ⟨data, -, hlegible, hdecode⟩ := normalize_eq_ok hh hv h
  exact fixed_decode hlegible hdecode

lemma normalize_fixed {heap : Heap} (hh : ∀ x ∈ heap, x.Sound) {w : Value} (h : w.Fixed) :
    ∃ w', normalize heap w = pure w' ∧ Same w w' := by
  obtain ⟨data, w', hdata, hdecodes, hsame⟩ := exists_decoded_same none heap h.basic h.readable h.short.sortable
  have hlegible : data.Legible :=
    ⟨faithful_encode hh h.basic.sound hdata, (printable_iff_short h.basic hdata).mpr h.short⟩
  exact ⟨w', (normalize_legible hdata hlegible).trans hdecodes.decode, hsame⟩

/-- Where normalizing succeeds, it gives a value of the basic kinds, and normalizing that gives it again. -/
theorem normalize_idempotent {heap : Heap} {v w : Value} (hh : ∀ x ∈ heap, x.Sound) (hv : v.Sound)
    (h : (normalize heap v).start.1 = .ok w) :
    w.Basic ∧ ∃ w', normalize heap w = pure w' ∧ Same w w' := by
  have hfixed := fixed_normalize hh hv h
  exact ⟨hfixed.basic, normalize_fixed hh hfixed⟩

/-- A list that holds itself and a member of an enumeration. -/
def circle : Heap :=
  [.list [.link 0, .member ⟨"m", "Color"⟩ .int (some "RED") (.int 1)]]

def circleData : Json :=
  tagged "tuple" [("items", .arr [.arr [tagged "circular" [],
    tagged "enum" [("class", .str "m:Color"), ("name", .str "RED"), ("value", .int 1)]]])]

lemma encode_circle : encode circle (.tuple [.link 0]) = .ok circleData := by
  have hname : Qualified.text ⟨"m", "Color"⟩ = "m:Color" := by decide
  simp [encode, encodeWith, encodeItems, encodeLink, circle, circleData, ok_bind, hname]

lemma legible_circleData : circleData.Legible := by
  have hone : Numeral.Short 1 := Nat.one_lt_pow (by decide) (by decide)
  constructor
  · simp [circleData, tagged, Json.Faithful, Json.FaithfulItems, Json.FaithfulMembers, tagKey]
  · simp [circleData, tagged, Json.Printable, Json.PrintableItems, Json.PrintableMembers, hone]

/-- The cycle becomes a text and the member a dictionary, and both stay so. -/
theorem normalize_idempotent_circle :
    ∃ w, (normalize circle (.tuple [.link 0])).start.1 = .ok w ∧
      w.Basic ∧ ∃ w', normalize circle w = pure w' ∧ Same w w' := by
  have hheap : ∀ x ∈ circle, x.Sound := by simp [circle, Value.Sound, Value.SoundItems]
  have hsound : Value.Sound (.tuple [.link 0]) := by simp [Value.Sound, Value.SoundItems]
  have hnormal : (normalize circle (.tuple [.link 0])).start.1 =
      .ok (.tuple [.list [.str circularText, .dict [(.str "__class__", .str "m:Color"),
        (.str "name", .str "RED"), (.str "value", .int 1)]]]) := by
    rw [normalize_legible encode_circle legible_circleData]
    rfl
  exact ⟨_, hnormal, normalize_idempotent hheap hsound hnormal⟩

end CallSnapshot.Codec
