import TapTrade.Escrow.Selection

/-! # Inputs from the client to the coordinator

The client writes the inputs of the escrow as hexadecimal fields that are separated by commas. The
coordinator reads every field of the text or fails, so that it gets back what the client has
written. No inputs make a text with one empty field, which is no input either.
-/

namespace TapTrade

open Resumption Numeric Selecting

section Fields

variable {P : Platform} {csv : String} {inputs : List (PsbtInput P.Input)}

/-- The fields of a text that are separated by commas. -/
def fields (csv : String) : List (List Char) := csv.toList.splitOn ','

/-- The coordinator reads the input from the field. -/
def ReadsField (P : Platform) (field : List Char) (input : PsbtInput P.Input) : Prop :=
  ∃ bytes, Hex.decode (String.ofList field) = some bytes ∧ P.psbtInputDeserialize bytes = some input

theorem decodeHex_eq_ok {text : String} {bytes : Bytes} :
    decodeHex text = .ok bytes ↔ Hex.decode text = some bytes := by
  unfold decodeHex
  cases Hex.decode text <;> simp

theorem readsField_iff {field : List Char} {input : PsbtInput P.Input} :
    (do
      let binary ← decodeHex (String.ofList field)
      parse "bincode::deserialize" P.psbtInputDeserialize binary) = .ok input ↔
        ReadsField P field input := by
  simp only [bind_eq_ok, decodeHex_eq_ok, parse_eq_ok, ReadsField]

/-- The coordinator reads one input from each field. -/
theorem csvHexToBdkInput_eq_ok :
    csvHexToBdkInput P csv = .ok inputs ↔ List.Forall₂ (ReadsField P) (fields csv) inputs := by
  rw [csvHexToBdkInput, bind_eq_ok]
  simp only [mapM_eq_ok, readsField_iff]
  constructor
  · rintro ⟨read, reads, ends⟩
    split at ends
    · cases ends
    · cases ends
      exact reads
  · intro reads
    have some : inputs ≠ [] := by
      rintro rfl
      exact List.splitOn_ne_nil ',' csv.toList (List.forall₂_nil_right_iff.mp reads)
    exact ⟨inputs, reads, if_neg (by simpa using some)⟩

/-- It fails if there is a field from which it cannot read an input. -/
theorem csvHexToBdkInput_of_malformed {field : List Char} (member : field ∈ fields csv)
    (malformed : ∀ input, ¬ ReadsField P field input) : ∃ e, csvHexToBdkInput P csv = .error e := by
  cases read : csvHexToBdkInput P csv with
  | error e => exact ⟨e, rfl⟩
  | ok inputs =>
      obtain ⟨inputs', mapped, -⟩ := bind_eq_ok.mp read
      obtain ⟨input, reads⟩ := exists_mapM_eq_ok.mp ⟨inputs', mapped⟩ field member
      exact absurd (readsField_iff.mp reads) (malformed input)

end Fields

section Codec

variable {P : Platform} (W : TradingWallet P)

/-- `bincode`: the coordinator reads what the client has written, and no input from nothing. -/
structure BincodeLaws : Prop where
  roundTrip : ∀ input bytes, W.bincodeSerialize input = .ok bytes →
    P.psbtInputDeserialize bytes = some input
  refusesNothing : P.psbtInputDeserialize [] = none

/-- What the coordinator makes of the text of a client, and of any text. -/
structure ReadsWhatIsWritten : Prop where
  /-- The client writes down the inputs for the unspent outputs that it takes one after the other,
      until nothing of the amount is missing. -/
  written : ∀ checks amount csv address, W.getEscrowPsbtInputs checks amount = .ok (csv, address) →
    ∃ utxos selected inputs, W.listUnspent = .ok utxos ∧
      Taken (fun part => takeAway amount.toInt64 (values part) ≤ 0) utxos selected ∧
      List.Forall₂ (fun utxo input => W.input utxo = .ok input) selected inputs ∧
      W.serializedInputs inputs = .ok csv
  /-- It does so whenever it can, unless a build that checks for overflow panics. -/
  returns : ∀ checks amount utxos address, W.sync = .ok () → W.listUnspent = .ok utxos →
    W.getNewAddress = .ok address →
    (∀ utxo ∈ utxos, ∃ input text, W.input utxo = .ok input ∧ W.inputHex input = .ok text) →
    (∃ csv, W.getEscrowPsbtInputs checks amount = .ok (csv, address)) ∨
      checks = true ∧ W.getEscrowPsbtInputs checks amount = .error .panicked
  reads : ∀ inputs csv, inputs ≠ [] → W.serializedInputs inputs = .ok csv →
    csvHexToBdkInput P csv = .ok inputs
  refusesNone : ∀ csv, W.serializedInputs [] = .ok csv → ∃ e, csvHexToBdkInput P csv = .error e
  onePerField : ∀ csv inputs, csvHexToBdkInput P csv = .ok inputs →
    inputs.length = (fields csv).length ∧ List.Forall₂ (ReadsField P) (fields csv) inputs
  refusesMalformed : ∀ csv, ∀ field ∈ fields csv, (∀ input, ¬ ReadsField P field input) →
    ∃ e, csvHexToBdkInput P csv = .error e

variable {W}

theorem reads_serializedInputs (laws : BincodeLaws W) {inputs : List (PsbtInput P.Input)}
    {csv : String} (some : inputs ≠ []) (written : W.serializedInputs inputs = .ok csv) :
    csvHexToBdkInput P csv = .ok inputs := by
  obtain ⟨texts, writes, rfl⟩ := TradingWallet.serializedInputs_eq_ok.mp written
  have some' : texts ≠ [] := by
    rintro rfl
    exact some (List.forall₂_nil_right_iff.mp writes)
  rw [csvHexToBdkInput_eq_ok, fields,
    splitOn_intercalate_comma some' (TradingWallet.plain_of_inputHex writes),
    List.forall₂_map_left_iff]
  apply writes.flip.imp
  intro text input encoded
  obtain ⟨bytes, serialized, ends⟩ := bind_eq_ok.mp encoded
  cases ends
  refine ⟨bytes, ?_, laws.roundTrip input bytes serialized⟩
  rw [String.ofList_toList, Hex.decode_encode]

theorem not_readsField_nil (laws : BincodeLaws W) (input : PsbtInput P.Input) :
    ¬ ReadsField P [] input := by
  rintro ⟨bytes, decoded, reads⟩
  cases decoded
  rw [laws.refusesNothing] at reads
  cases reads

/-- The coordinator reads exactly what the client has written. -/
theorem readsWhatIsWritten (laws : BincodeLaws W) : ReadsWhatIsWritten W where
  written checks amount csv address returned := by
    obtain ⟨utxos, listed⟩ := listed_of_getEscrowPsbtInputs returned
    obtain ⟨selected, taken, text⟩ := getEscrowPsbtInputs_ok listed returned
    obtain ⟨inputs, found, written⟩ := TradingWallet.serializedUtxos_eq_ok.mp text
    exact ⟨utxos, selected, inputs, listed, taken, found, written⟩
  returns checks amount utxos address synced listed addressed writable :=
    getEscrowPsbtInputs_returns synced listed addressed writable
  reads inputs csv some written := reads_serializedInputs laws some written
  refusesNone csv written := by
    cases written
    exact csvHexToBdkInput_of_malformed (List.mem_singleton.mpr rfl) (not_readsField_nil laws)
  onePerField csv inputs read := by
    have reads := csvHexToBdkInput_eq_ok.mp read
    exact ⟨reads.length_eq.symm, reads⟩
  refusesMalformed csv field member malformed := csvHexToBdkInput_of_malformed member malformed

end Codec

namespace Sample

theorem bincodeLaws (utxos : List LocalUtxo) : BincodeLaws (tradingWallet utxos) where
  roundTrip input bytes serialized := by
    simp only [tradingWallet] at serialized
    split at serialized
    case h_2 => cases serialized
    case h_1 =>
      split at serialized
      case isFalse => cases serialized
      case isTrue reads =>
        cases serialized
        exact reads
  refusesNothing := rfl

end Sample

theorem readsWhatIsWritten_sample : ReadsWhatIsWritten (Sample.tradingWallet Sample.coins) :=
  readsWhatIsWritten (Sample.bincodeLaws Sample.coins)

end TapTrade
