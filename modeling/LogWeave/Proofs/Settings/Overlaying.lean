import LogWeave.Proofs.Json.RoundTrip
import LogWeave.Settings.Tuning

/-! One text read as a tuning and as an overlay.

The reader of overlays keeps up with that of tunings, member by member: what it finds, laid over the
standard tuning, is what the other one finds (`Tuning.keepsUp_overlay`). A tuning is written with
all its members. So either reader finds the whole of it (`Tuning.takes_document`,
`Tuning.Overlay.takes_document`), and laid over any tuning it leaves nothing of that. -/
namespace LogWeave.Tuning

open Json.Reader

/-! ### What is read -/

theorem wordless_amount : amount.Wordless :=
  ((Json.Scalar.wordless_integer _ _ _).map Int.toNat).map UInt64.ofNat

theorem wordless_count : count.Wordless :=
  ((Json.Scalar.wordless_integer _ _ _).map Int.toNat).map UInt64.ofNat

/-- Laid over the standard tuning, the overlay gives this one. -/
def IsCompletedBy (t : Tuning) (o : Overlay) : Prop := standard.overlaid o = t

/-- A value that one of them must have and the other may have. -/
theorem keepsUp_field {α : Type} {p : Json.Reader α} (hp : p.Wordless) (name : String)
    {put : Tuning → α → Tuning} {give : Overlay → Option α → Overlay}
    (h : ∀ o a, standard.overlaid (give o (some a)) = put (standard.overlaid o) a) :
    Json.Field.KeepsUp IsCompletedBy (field name fun t => do pure (put t (← p)))
      (field name fun o => do pure (give o (← Json.Scalar.optional p))) where
  name_eq := rfl
  needed_eq := rfl
  listed_eq := rfl
  read t o ht := hp.keepsUp_optional.bind fun a found hfound => by
    refine .pure ?_
    rw [hfound, IsCompletedBy, h, ht]

/-- **Whatever is read as a tuning is read as an overlay**, of the standard tuning. -/
theorem keepsUp_overlay : KeepsUp IsCompletedBy record.reader Overlay.record.reader :=
  Json.Record.keepsUp_reader
    (.cons (keepsUp_field wordless_amount _ fun _ _ => rfl) <|
      .cons (keepsUp_field wordless_amount _ fun _ _ => rfl) <|
      .cons (keepsUp_field wordless_amount _ fun _ _ => rfl) <|
      .cons (keepsUp_field wordless_count _ fun _ _ => rfl) <|
      .cons (keepsUp_field wordless_amount _ fun _ _ => rfl) .nil) rfl

/-! ### What is written -/

/-- The overlay that gives all the values of a tuning. -/
def Overlay.full (t : Tuning) : Overlay :=
  ⟨t.window, t.reconnectDelay, t.retryDelay, t.linesPerSource, t.pollInterval⟩

/-- A full overlay leaves nothing of what it is laid over. -/
theorem overlaid_full (base t : Tuning) : base.overlaid (.full t) = t := rfl

/-- A number of 64 bits is read back from its digits. -/
theorem takes_whole (n : UInt64) (expected : String) :
    Takes (UInt64.ofNat <$> Int.toNat <$> Json.Scalar.integer 0 0xFFFFFFFFFFFFFFFF expected)
      (Json.Printer.number (.whole n.toNat)) n := by
  have hlt : (n.toNat : Int) < 0x10000000000000000 := by exact_mod_cast n.toNat_lt
  have hbounds : (0 : Int) ≤ n.toNat ∧ (n.toNat : Int) ≤ 0xFFFFFFFFFFFFFFFF := by omega
  have hread := ((Takes.integer ⟨by omega, hlt⟩ hbounds expected).map Int.toNat).map UInt64.ofNat
  rwa [Int.toNat_natCast, UInt64.ofNat_toNat] at hread

theorem takes_amount (n : UInt64) : Takes amount (Json.Printer.number (.whole n.toNat)) n :=
  takes_whole n "u64"

theorem takes_count (n : UInt64) : Takes count (Json.Printer.number (.whole n.toNat)) n :=
  takes_whole n "usize"

section Written

variable {l : Json.Printer.Layout} (hl : l.Plain) (depth : Nat) (t : Tuning)
include hl

/-- **A tuning is read back as it was written.** -/
theorem takes_document : Takes record.reader (Json.Printer.value l depth t.document) t :=
  Json.Record.takes_fields (r := record) [
      (.whole t.window.toNat, fun c => { c with window := t.window }),
      (.whole t.reconnectDelay.toNat, fun c => { c with reconnectDelay := t.reconnectDelay }),
      (.whole t.retryDelay.toNat, fun c => { c with retryDelay := t.retryDelay }),
      (.whole t.linesPerSource.toNat, fun c => { c with linesPerSource := t.linesPerSource }),
      (.whole t.pollInterval.toNat, fun c => { c with pollInterval := t.pollInterval })]
    (by decide) hl
    (.cons (fun _ => (takes_amount _).bind_pure _) <|
      .cons (fun _ => (takes_amount _).bind_pure _) <|
      .cons (fun _ => (takes_amount _).bind_pure _) <|
      .cons (fun _ => (takes_count _).bind_pure _) <|
      .cons (fun _ => (takes_amount _).bind_pure _) .nil)

/-- **As an overlay it gives all its values.** -/
theorem Overlay.takes_document :
    Takes record.reader (Json.Printer.value l depth t.document) (full t) :=
  Json.Record.takes_fields (r := record) [
      (.whole t.window.toNat, fun o => { o with window := t.window }),
      (.whole t.reconnectDelay.toNat, fun o => { o with reconnectDelay := t.reconnectDelay }),
      (.whole t.retryDelay.toNat, fun o => { o with retryDelay := t.retryDelay }),
      (.whole t.linesPerSource.toNat, fun o => { o with linesPerSource := t.linesPerSource }),
      (.whole t.pollInterval.toNat, fun o => { o with pollInterval := t.pollInterval })]
    (by decide) hl
    (.cons (fun _ => (takes_amount _).optional_number.bind_pure _) <|
      .cons (fun _ => (takes_amount _).optional_number.bind_pure _) <|
      .cons (fun _ => (takes_amount _).optional_number.bind_pure _) <|
      .cons (fun _ => (takes_count _).optional_number.bind_pure _) <|
      .cons (fun _ => (takes_amount _).optional_number.bind_pure _) .nil)

end Written

/-- **Both readings agree.** Whatever text is read as a tuning is also read as an overlay, which
laid over the standard tuning gives the same. What a tuning is written as, on one line or on
several, is read as that tuning, and as an overlay that gives it whatever it is laid over. -/
theorem readings_agree :
    (∀ (text : String) (t : Tuning), read text = .ok t →
      ∃ o, Overlay.read text = .ok o ∧ standard.overlaid o = t) ∧
    ∀ (t : Tuning) (text : String),
      text = Json.Printer.line t.document ∨ text = Json.Printer.lines t.document →
      read text = .ok t ∧
        ∃ o, Overlay.read text = .ok o ∧ ∀ base : Tuning, base.overlaid o = t := by
  constructor
  · intro text t h
    obtain ⟨o, ho, ht⟩ := keepsUp_overlay.whole (Json.mapError_eq_ok.1 h)
    exact ⟨o, Json.mapError_eq_ok.2 ho, ht⟩
  · intro t text htext
    obtain ⟨l, hl, rfl⟩ : ∃ l : Json.Printer.Layout, l.Plain ∧
        text = String.ofList (Json.Printer.value l 0 t.document) := by
      rcases htext with rfl | rfl
      · exact ⟨_, Json.Printer.compact_plain, rfl⟩
      · exact ⟨_, Json.Printer.spread_plain, rfl⟩
    refine ⟨Json.mapError_eq_ok.2 (takes_document hl 0 t).whole, .full t, ?_, fun base => rfl⟩
    exact Json.mapError_eq_ok.2 (Overlay.takes_document hl 0 t).whole

/-- Texts in either form that leave values out, and the greatest values written. -/
theorem readings_agree_partial :
    let text := "\x7b\"later\": [null, 1e9], \"windowMs\": 250, \"reconnectDelayMs\": 0\x7d"
    let greatest : Tuning := ⟨0xFFFFFFFFFFFFFFFF, 0, 0xFFFFFFFFFFFFFFFF, 1, 0xFFFFFFFFFFFFFFFF⟩
    (read text = .ok ⟨250, 0, 5000, 32, 1000⟩ ∧
      ∃ o, Overlay.read text = .ok o ∧ standard.overlaid o = ⟨250, 0, 5000, 32, 1000⟩) ∧
    (read "[7, 8]" = .ok ⟨7, 8, 5000, 32, 1000⟩ ∧
      ∃ o, Overlay.read "[7, 8]" = .ok o ∧ standard.overlaid o = ⟨7, 8, 5000, 32, 1000⟩) ∧
    ∃ o, Overlay.read (Json.Printer.line greatest.document) = .ok o ∧
      ∀ base : Tuning, base.overlaid o = greatest :=
  have hobject : read "\x7b\"later\": [null, 1e9], \"windowMs\": 250, \"reconnectDelayMs\": 0\x7d" =
      .ok ⟨250, 0, 5000, 32, 1000⟩ := by decide +kernel
  have hlist : read "[7, 8]" = .ok ⟨7, 8, 5000, 32, 1000⟩ := by decide +kernel
  ⟨⟨hobject, readings_agree.1 _ _ hobject⟩, ⟨hlist, readings_agree.1 _ _ hlist⟩,
    (readings_agree.2 _ _ (.inl rfl)).2⟩

end LogWeave.Tuning
