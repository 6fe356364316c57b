import TapTrade.Model.ClientWallet
import TapTrade.Model.Sample
import TapTrade.Numeric.Signed
import TapTrade.Selecting.Prefix

/-! # The coins that a client selects

The client subtracts the values of its unspent outputs from the amount until nothing is missing. It
also stops when there are no more outputs, and does not look at what is missing then: a selection
that it returns is worth the amount iff the wallet is.
-/

namespace TapTrade

open Resumption Numeric Selecting

/-! The text of a list of inputs. -/

theorem Hex.comma_not_mem_encode (bytes : Bytes) : ',' ∉ (Hex.encode bytes).toList := by
  rw [Hex.encode, String.toList_ofList]
  induction bytes with
  | nil => exact List.not_mem_nil
  | cons b bytes ih =>
      have digit (d : UInt8) (small : d < 16) : ',' ≠ Hex.digitChar d := by
        intro same
        have digits := Hex.digit?_digitChar d small
        rw [← same] at digits
        cases digits
      have high : b / 16 < 16 := by grind
      have low : b % 16 < 16 := by grind
      simp [Hex.encodeChars, digit _ high, digit _ low, ih]

/-- The fields of texts without commas that are joined by commas. -/
theorem splitOn_intercalate_comma {texts : List String} (some : texts ≠ [])
    (plain : ∀ text ∈ texts, ',' ∉ text.toList) :
    (",".intercalate texts).toList.splitOn ',' = texts.map String.toList := by
  rw [String.toList_intercalate]
  apply List.splitOn_intercalate
  · intro chars member
    obtain ⟨text, listed, rfl⟩ := List.mem_map.mp member
    exact plain text listed
  · simpa using some

namespace TradingWallet

variable {P : Platform} (W : TradingWallet P) {checks : Bool} {amount : Int64}
  {utxos selected other : List LocalUtxo}
  {texts texts' : List String} {csv address : String}

/-- The inputs written down one after the other, separated by commas. -/
def serializedInputs (inputs : List (PsbtInput P.Input)) : Except Error String := do
  return ",".intercalate (← inputs.mapM W.inputHex)

/-- The inputs for the outputs, written down. -/
def serializedUtxos (utxos : List LocalUtxo) : Except Error String := do
  W.serializedInputs (← utxos.mapM W.input)

variable {W}

theorem serializedInputs_eq_ok {inputs : List (PsbtInput P.Input)} :
    W.serializedInputs inputs = .ok csv ↔ ∃ texts,
      List.Forall₂ (fun input text => W.inputHex input = .ok text) inputs texts ∧
        csv = ",".intercalate texts := by
  simp only [serializedInputs, bind_eq_ok, mapM_eq_ok]
  refine exists_congr fun texts => and_congr_right fun _ => ?_
  exact ⟨fun same => (Except.ok.inj same).symm, fun same => congrArg Except.ok same.symm⟩

theorem serializedUtxos_eq_ok : W.serializedUtxos utxos = .ok csv ↔ ∃ inputs,
    List.Forall₂ (fun utxo input => W.input utxo = .ok input) utxos inputs ∧
      W.serializedInputs inputs = .ok csv := by
  simp only [serializedUtxos, bind_eq_ok, mapM_eq_ok]

theorem plain_of_inputHex {inputs : List (PsbtInput P.Input)}
    (written : List.Forall₂ (fun input text => W.inputHex input = .ok text) inputs texts) :
    ∀ text ∈ texts, ',' ∉ text.toList := by
  induction written with
  | nil => exact fun text member => absurd member List.not_mem_nil
  | cons first _ ih =>
      obtain ⟨bytes, -, encoded⟩ := bind_eq_ok.mp first
      cases encoded
      exact List.forall_mem_cons.mpr ⟨Hex.comma_not_mem_encode bytes, ih⟩

/-- Which texts were joined can be told from the result, but for no text and an empty one. -/
theorem length_of_intercalate_eq (plain : ∀ text ∈ texts, ',' ∉ text.toList)
    (plain' : ∀ text ∈ texts', ',' ∉ text.toList)
    (same : ",".intercalate texts = ",".intercalate texts') :
    max texts.length 1 = max texts'.length 1 := by
  have fields {texts : List String} (plain : ∀ text ∈ texts, ',' ∉ text.toList) :
      ((",".intercalate texts).toList.splitOn ',').length = max texts.length 1 := by
    cases texts with
    | nil => rfl
    | cons text texts =>
        rw [splitOn_intercalate_comma (List.cons_ne_nil text texts) plain, List.length_map]
        exact (Nat.max_eq_left (Nat.le_add_left 1 texts.length)).symm
  rw [← fields plain, ← fields plain', same]

end TradingWallet

section Worth

variable {amount : Nat} {utxos selected part : List LocalUtxo}

def values (utxos : List LocalUtxo) : List UInt64 := utxos.map fun utxo => utxo.txout.value

/-- What the outputs are worth together. -/
def worth (utxos : List LocalUtxo) : Nat := exactSum (values utxos)

theorem worth_append (utxos others : List LocalUtxo) :
    worth (utxos ++ others) = worth utxos + worth others := by
  simp [worth, values, exactSum]

theorem worth_le_of_within (within : part <+: utxos) : worth part ≤ worth utxos := by
  obtain ⟨rest, rfl⟩ := within
  rw [worth_append]
  exact Nat.le_add_right _ _

/-- The outputs are the first ones that are worth the amount. -/
structure Selects (amount : Nat) (utxos selected : List LocalUtxo) : Prop where
  within : selected <+: utxos
  enough : amount ≤ worth selected
  least : ∀ shorter, shorter <+: selected → shorter ≠ [] → shorter ≠ selected →
    worth shorter < amount

/-- The wallet is worth the amount, and the loop can count that far: what is missing behind an
    output, and by how much the selection exceeds the amount if there are outputs left, are in the
    range of `i64`. -/
structure Coverable (amount : Nat) (utxos : List LocalUtxo) : Prop where
  enough : amount ≤ worth utxos
  missing : ∀ part, part <+: utxos → part ≠ [] → worth part < amount →
    amount - worth part < 2 ^ 63
  excess : ∀ selected, Selects amount utxos selected → selected ≠ utxos →
    worth selected - amount ≤ 2 ^ 63

/-- The last output of a selection was needed. -/
theorem Selects.worth_lt (covers : Selects amount utxos selected) :
    worth selected < amount + 2 ^ 64 := by
  obtain rfl | ⟨earlier, utxo, rfl⟩ := List.eq_nil_or_concat selected
  · exact Nat.lt_add_left amount (by decide)
  · have last : worth [utxo] < 2 ^ 64 := by
      simpa [worth, values] using utxo.txout.value.toNat_lt
    rw [List.concat_eq_append, worth_append]
    by_cases single : earlier = []
    · subst single
      have nothing : worth [] = 0 := rfl
      omega
    · have short : worth earlier < amount := by
        apply covers.least earlier _ single
        · simp
        · simp
      omega

theorem selects_of_taken (enough : amount ≤ worth utxos)
    (taken : Taken (fun part => amount ≤ worth part) utxos selected) :
    Selects amount utxos selected where
  within := taken.within
  enough := by
    obtain rfl | ⟨-, done⟩ := taken.ends
    · exact enough
    · exact done
  least shorter within some proper := Nat.not_le.mp (taken.early shorter within some proper)

theorem Selects.taken (covers : Selects amount utxos selected) (some : selected ≠ []) :
    Taken (fun part => amount ≤ worth part) utxos selected where
  within := covers.within
  early shorter within some proper := Nat.not_le.mpr (covers.least shorter within some proper)
  ends := .inr ⟨some, covers.enough⟩

end Worth

section Loop

variable {P : Platform} {W : TradingWallet P} {checks : Bool}
  {utxos selected part : List LocalUtxo}
  {texts : List String}

theorem I64.sub_eq_ok {a b c : Int64} (subtracts : I64.sub checks a b = .ok c) : c = a - b := by
  unfold I64.sub at subtracts
  split at subtracts
  · cases subtracts
  · exact (Except.ok.inj subtracts).symm

/-- The outputs whose inputs the loop returns. -/
theorem selectInputs_ok {amount : Int64}
    (selects : W.selectInputs checks amount utxos = .ok texts) : ∃ selected inputs,
      Taken (fun part => takeAway amount (values part) ≤ 0) utxos selected ∧
        List.Forall₂ (fun utxo input => W.input utxo = .ok input) selected inputs ∧
          List.Forall₂ (fun input text => W.inputHex input = .ok text) inputs texts := by
  induction utxos generalizing amount texts with
  | nil =>
      cases selects
      exact ⟨[], [], .nil, .nil, .nil⟩
  | cons utxo utxos ih =>
      rw [TradingWallet.selectInputs] at selects
      obtain ⟨input, read, selects⟩ := bind_eq_ok.mp selects
      obtain ⟨text, written, selects⟩ := bind_eq_ok.mp selects
      obtain ⟨left, subtracted, selects⟩ := bind_eq_ok.mp selects
      rw [Outcome.ofExcept_eq_ok] at read written
      obtain rfl := I64.sub_eq_ok subtracted
      by_cases done : amount - utxo.txout.value.toInt64 ≤ 0
      · rw [if_pos done] at selects
        cases selects
        exact ⟨[utxo], [input], .last done, .cons read .nil, .cons written .nil⟩
      · rw [if_neg done] at selects
        obtain ⟨rest, goesOn, ends⟩ := bind_eq_ok.mp selects
        cases ends
        obtain ⟨selected, inputs, taken, reads, writes⟩ := ih goesOn
        exact ⟨utxo :: selected, input :: inputs, .cons done taken, .cons read reads,
          .cons written writes⟩

/-- It returns if the inputs can be had and written down, unless it panics. -/
theorem selectInputs_returns (amount : Int64)
    (writable : ∀ utxo ∈ utxos, ∃ input text, W.input utxo = .ok input ∧
      W.inputHex input = .ok text) :
    (∃ texts, W.selectInputs checks amount utxos = .ok texts) ∨
      checks = true ∧ W.selectInputs checks amount utxos = .error .panicked := by
  induction utxos generalizing amount with
  | nil => exact .inl ⟨[], rfl⟩
  | cons utxo utxos ih =>
      obtain ⟨⟨input, text, read, written⟩, others⟩ := List.forall_mem_cons.mp writable
      have first : W.selectInputs checks amount (utxo :: utxos) =
          I64.sub checks amount utxo.txout.value.toInt64 >>= fun left =>
            if left ≤ 0 then return [text]
            else return text :: (← W.selectInputs checks left utxos) := by
        rw [TradingWallet.selectInputs, read]
        change Outcome.ofExcept (W.inputHex input) >>= _ = _
        rw [written]
        rfl
      rw [first]
      cases subtracted : (I64.sub checks amount utxo.txout.value.toInt64 : Outcome Error Int64) with
      | error abort =>
          unfold I64.sub at subtracted
          split at subtracted
          case isFalse => cases subtracted
          case isTrue overflows =>
            cases subtracted
            exact .inr ⟨(Bool.and_eq_true_iff.mp overflows).1, rfl⟩
      | ok left =>
          by_cases done : left ≤ 0
          · exact .inl ⟨[text], if_pos done⟩
          · obtain ⟨texts, goesOn⟩ | ⟨checked, panics⟩ := ih left others
            · refine .inl ⟨text :: texts, (if_neg done).trans ?_⟩
              rw [goesOn]
              rfl
            · refine .inr ⟨checked, (if_neg done).trans ?_⟩
              rw [panics]
              rfl

variable {amount : UInt64}

/-- Too early, the loop stops only if what is missing does not fit. -/
theorem stops_iff_of_short (short : worth part < amount.toNat) :
    takeAway amount.toInt64 (values part) ≤ 0 ↔ 2 ^ 63 ≤ amount.toNat - worth part := by
  have below := amount.toNat_lt
  unfold worth at short ⊢
  rw [takeAway_nonpos_iff, bmod_nonpos_iff_of_pos] <;> omega

/-- With a selection, the loop goes on only if what is too much does not fit. -/
theorem stops_iff_of_selects (covers : Selects amount.toNat utxos part) :
    takeAway amount.toInt64 (values part) ≤ 0 ↔ worth part - amount.toNat ≤ 2 ^ 63 := by
  have enough := covers.enough
  have below := covers.worth_lt
  unfold worth at enough below ⊢
  rw [takeAway_nonpos_iff, bmod_nonpos_iff_of_nonpos] <;> omega

/-- A selection that the loop takes is one that it can count to. -/
theorem coverable_of_selects
    (taken : Taken (fun part => takeAway amount.toInt64 (values part) ≤ 0) utxos selected)
    (covers : Selects amount.toNat utxos selected) : Coverable amount.toNat utxos where
  enough := covers.enough.trans (worth_le_of_within covers.within)
  missing := by
    intro part within some short
    have proper : ¬ selected <+: part := fun longer =>
      absurd (covers.enough.trans (worth_le_of_within longer)) (Nat.not_le.mpr short)
    have earlier : part <+: selected :=
      (List.prefix_or_prefix_of_prefix within covers.within).resolve_right proper
    have goesOn := taken.early part earlier some fun same => proper (same ▸ List.prefix_rfl)
    rw [stops_iff_of_short short] at goesOn
    omega
  excess := by
    intro other covers' outputsLeft
    by_cases nothing : other = []
    · rw [nothing]
      exact (Nat.sub_le 0 amount.toNat).trans (Nat.zero_le _)
    · have some : selected ≠ [] := taken.ne_nil covers'.within nothing
      obtain rfl := (covers.taken some).unique (covers'.taken nothing)
      have stops := (taken.ends.resolve_left outputsLeft).2
      exact (stops_iff_of_selects covers).mp stops

/-- If there is a selection that the loop can count to, the loop takes it. -/
theorem exists_taken_of_coverable (coverable : Coverable amount.toNat utxos) : ∃ first,
    Selects amount.toNat utxos first ∧
      Taken (fun part => takeAway amount.toInt64 (values part) ≤ 0) utxos first := by
  obtain ⟨first, taken⟩ := Taken.exists_taken (fun part => amount.toNat ≤ worth part) utxos
  have covers := selects_of_taken coverable.enough taken
  refine ⟨first, covers, covers.within, ?_, ?_⟩
  · intro shorter within some proper stops
    have short := covers.least shorter within some proper
    have fits := coverable.missing shorter (within.trans covers.within) some short
    rw [stops_iff_of_short short] at stops
    omega
  · by_cases outputsLeft : first = utxos
    · exact .inl outputsLeft
    · have some := (taken.ends.resolve_left outputsLeft).1
      exact .inr ⟨some, (stops_iff_of_selects covers).mpr
        (coverable.excess first covers outputsLeft)⟩

/-- What the loop takes is a selection iff there is one that it can count to. -/
theorem selects_iff_coverable
    (taken : Taken (fun part => takeAway amount.toInt64 (values part) ≤ 0) utxos selected) :
    Selects amount.toNat utxos selected ↔ Coverable amount.toNat utxos := by
  constructor
  · exact coverable_of_selects taken
  · intro coverable
    obtain ⟨first, covers, same⟩ := exists_taken_of_coverable coverable
    rw [taken.unique same]
    exact covers

end Loop

section Delivery

variable {P : Platform} {W : TradingWallet P} {checks : Bool} {amount : UInt64}
  {utxos : List LocalUtxo} {csv address : String}

/-- The text has the inputs of the first unspent outputs that are worth the amount. -/
def Delivers (W : TradingWallet P) (amount : UInt64) (utxos : List LocalUtxo) (csv : String) :
    Prop :=
  ∃ selected, Selects amount.toNat utxos selected ∧ W.serializedUtxos selected = .ok csv

theorem listed_of_getEscrowPsbtInputs
    (returned : W.getEscrowPsbtInputs checks amount = .ok (csv, address)) :
    ∃ utxos, W.listUnspent = .ok utxos := by
  obtain ⟨_, -, returned⟩ := bind_eq_ok.mp returned
  obtain ⟨utxos, listed, -⟩ := bind_eq_ok.mp returned
  exact ⟨utxos, Outcome.ofExcept_eq_ok.mp listed⟩

/-- What `get_escrow_psbt_inputs` returns. -/
theorem getEscrowPsbtInputs_ok (listed : W.listUnspent = .ok utxos)
    (returned : W.getEscrowPsbtInputs checks amount = .ok (csv, address)) : ∃ selected,
      Taken (fun part => takeAway amount.toInt64 (values part) ≤ 0) utxos selected ∧
        W.serializedUtxos selected = .ok csv := by
  obtain ⟨_, -, returned⟩ := bind_eq_ok.mp returned
  obtain ⟨found, looked, returned⟩ := bind_eq_ok.mp returned
  rw [Outcome.ofExcept_eq_ok, listed, Except.ok.injEq] at looked
  subst looked
  obtain ⟨texts, selects, returned⟩ := bind_eq_ok.mp returned
  obtain ⟨_, -, ends⟩ := bind_eq_ok.mp returned
  cases ends
  obtain ⟨selected, inputs, taken, reads, writes⟩ := selectInputs_ok selects
  refine ⟨selected, taken, TradingWallet.serializedUtxos_eq_ok.mpr ⟨inputs, reads, ?_⟩⟩
  exact TradingWallet.serializedInputs_eq_ok.mpr ⟨texts, writes, rfl⟩

/-- It returns if the wallet answers and the inputs can be written down, unless it panics. -/
theorem getEscrowPsbtInputs_returns (synced : W.sync = .ok ()) (listed : W.listUnspent = .ok utxos)
    (addressed : W.getNewAddress = .ok address)
    (writable : ∀ utxo ∈ utxos, ∃ input text, W.input utxo = .ok input ∧
      W.inputHex input = .ok text) :
    (∃ csv, W.getEscrowPsbtInputs checks amount = .ok (csv, address)) ∨
      checks = true ∧ W.getEscrowPsbtInputs checks amount = .error .panicked := by
  have selecting : W.getEscrowPsbtInputs checks amount =
      W.selectInputs checks amount.toInt64 utxos >>= fun inputs =>
        return (",".intercalate inputs, address) := by
    rw [TradingWallet.getEscrowPsbtInputs, synced, listed, addressed]
    rfl
  rw [selecting]
  obtain ⟨texts, selects⟩ | ⟨checked, panics⟩ := selectInputs_returns amount.toInt64 writable
  · rw [selects]
    exact .inl ⟨_, rfl⟩
  · rw [panics]
    exact .inr ⟨checked, rfl⟩

/-- Two selections with the same text are the same, but for none and a single output. -/
theorem max_length_of_serialized {selected other : List LocalUtxo}
    (text : W.serializedUtxos selected = .ok csv) (text' : W.serializedUtxos other = .ok csv) :
    max selected.length 1 = max other.length 1 := by
  obtain ⟨inputs, reads, written⟩ := TradingWallet.serializedUtxos_eq_ok.mp text
  obtain ⟨inputs', reads', written'⟩ := TradingWallet.serializedUtxos_eq_ok.mp text'
  obtain ⟨texts, writes, rfl⟩ := TradingWallet.serializedInputs_eq_ok.mp written
  obtain ⟨texts', writes', same⟩ := TradingWallet.serializedInputs_eq_ok.mp written'
  rw [reads.length_eq, writes.length_eq, reads'.length_eq, writes'.length_eq]
  exact TradingWallet.length_of_intercalate_eq (TradingWallet.plain_of_inputHex writes)
    (TradingWallet.plain_of_inputHex writes') same

/-- Whenever the client returns inputs, in either build: they are those of the first unspent outputs
    that are worth the amount iff the wallet is worth the amount and the loop can count that far. -/
theorem delivers_iff (listed : W.listUnspent = .ok utxos)
    (returned : W.getEscrowPsbtInputs checks amount = .ok (csv, address)) :
    Delivers W amount utxos csv ↔ Coverable amount.toNat utxos := by
  obtain ⟨selected, taken, text⟩ := getEscrowPsbtInputs_ok listed returned
  rw [← selects_iff_coverable taken]
  constructor
  · rintro ⟨other, covers, text'⟩
    have lengths := max_length_of_serialized text text'
    by_cases nothing : other = []
    · subst nothing
      have free : amount.toNat = 0 := Nat.le_zero.mp covers.enough
      have single : selected.length ≤ 1 := by
        rw [List.length_nil] at lengths
        omega
      refine ⟨taken.within, free ▸ Nat.zero_le _, fun shorter within some proper => ?_⟩
      have length := List.length_pos_of_ne_nil some
      exact absurd (within.eq_of_length_le (single.trans length)) proper
    · have length := List.length_pos_of_ne_nil (taken.ne_nil covers.within nothing)
      have length' := List.length_pos_of_ne_nil nothing
      have prefixed : selected <+: other :=
        List.prefix_of_prefix_length_le taken.within covers.within (by omega)
      rw [prefixed.eq_of_length (by omega)]
      exact covers
  · exact fun covers => ⟨selected, covers, text⟩

end Delivery

namespace Sample

/-- A wallet with the unspent outputs, whose inputs the sample platform reads back. -/
def tradingWallet (utxos : List LocalUtxo) : TradingWallet .sample where
  sync := .ok ()
  listUnspent := .ok utxos
  getPsbtInput utxo := .ok (some utxo.txout)
  bincodeSerialize input :=
    match Hex.decode input.utxo.txid with
    | some bytes =>
        if Platform.sample.psbtInputDeserialize bytes = some input then
          .ok bytes
        else .error (.library "bincode::serialize")
    | none => .error (.library "bincode::serialize")
  getNewAddress := .ok makerAddress

def coin (txid : String) : LocalUtxo := ⟨⟨txid, 0⟩, ⟨30000000, [0x51, 0x20]⟩⟩

def coins : List LocalUtxo := [coin "0a", coin "0b", coin "0c"]

end Sample

theorem delivers_iff_sample :
    Delivers (Sample.tradingWallet Sample.coins) 40000000 Sample.coins "0a,0b" ↔
      Coverable 40000000 Sample.coins := by
  have returned : (Sample.tradingWallet Sample.coins).getEscrowPsbtInputs true 40000000 =
      .ok ("0a,0b", Sample.makerAddress) := by
    decide +kernel
  exact delivers_iff rfl returned

/-- The client returns a single output of 30000000 sat where 40000000 sat were asked for. -/
theorem too_little_selected :
    (Sample.tradingWallet [Sample.coin "0a"]).getEscrowPsbtInputs true 40000000 =
        .ok ("0a", Sample.makerAddress) ∧
      ¬ Delivers (Sample.tradingWallet [Sample.coin "0a"]) 40000000 [Sample.coin "0a"] "0a" := by
  refine ⟨by decide +kernel, ?_⟩
  rintro ⟨selected, covers, -⟩
  have enough := covers.enough.trans (worth_le_of_within covers.within)
  exact absurd enough (by decide)

end TapTrade
