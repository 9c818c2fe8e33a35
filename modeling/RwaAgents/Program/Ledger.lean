import RwaAgents.Library.OrderedMap
import RwaAgents.Program.States

/-!
# The ledger the program runs on

A `Ledger` maps addresses to lamports and, where an account has been created,
to its data: a record of the program, a mint or a token account.  Addresses are
a parameter.  `Runtime` collects what the chain knows about them, which is how
addresses are derived and what an account of a given size must hold.

`put` and `pay` are the only two ways a ledger changes.
-/

namespace RwaTokenization

open EStateM

/-- The seeds of an address derived by the program: a constant and perhaps a
key. -/
structure Seeds (Pubkey : Type) where
  literal : String
  key : Option Pubkey

inductive TokenProgram
  | token
  | token2022
deriving DecidableEq, Repr

/-- What the chain says about addresses and rent. -/
class Runtime (Pubkey : Type) where
  /-- The key all of whose bytes are zero. -/
  zero : Pubkey
  /-- The address the program derives from seeds, with the canonical bump. -/
  findProgramAddress : Seeds Pubkey → Pubkey
  /-- Different seeds have different addresses.  The seeds are hashed as one
  string of bytes, in which a short constant and a key cannot be confused. -/
  findProgramAddress_injective : ∀ {s t : Seeds Pubkey}, s.literal.utf8ByteSize < 32 →
    t.literal.utf8ByteSize < 32 → findProgramAddress s = findProgramAddress t → s = t
  /-- The associated token account of an owner and a mint under a token program. -/
  associatedTokenAddress (owner : Pubkey) (tokenProgram : TokenProgram) (mint : Pubkey) : Pubkey
  /-- The lamports an account of this size must hold. -/
  minimumBalance : ℕ → ℕ

structure Mint (Pubkey : Type) where
  program : TokenProgram
  mintAuthority : Option Pubkey
  supply : ℕ
  decimals : ℕ
  freezeAuthority : Option Pubkey
deriving DecidableEq, Repr

structure TokenAccount (Pubkey : Type) where
  program : TokenProgram
  mint : Pubkey
  owner : Pubkey
  amount : ℕ
  isFrozen : Bool
deriving DecidableEq, Repr

/-- The data of an account, under the program that owns it. -/
inductive AccountData (Pubkey : Type)
  | globalConfig (config : GlobalConfig Pubkey)
  | rwaAsset (asset : RwaAsset Pubkey)
  | tokenization (record : Tokenization Pubkey)
  | mint (record : Mint Pubkey)
  | tokenAccount (account : TokenAccount Pubkey)
deriving DecidableEq, Repr

namespace AccountData

variable {Pubkey : Type}

def globalConfig? : AccountData Pubkey → Option (GlobalConfig Pubkey)
  | globalConfig config => some config
  | _ => none

def rwaAsset? : AccountData Pubkey → Option (RwaAsset Pubkey)
  | rwaAsset asset => some asset
  | _ => none

def tokenization? : AccountData Pubkey → Option (Tokenization Pubkey)
  | tokenization record => some record
  | _ => none

def mint? : AccountData Pubkey → Option (Mint Pubkey)
  | mint record => some record
  | _ => none

def tokenAccount? : AccountData Pubkey → Option (TokenAccount Pubkey)
  | tokenAccount account => some account
  | _ => none

/-- Does a token program own the account? -/
def isTokenData : AccountData Pubkey → Bool
  | mint _ => true
  | tokenAccount _ => true
  | _ => false

theorem globalConfig?_of_token {data : AccountData Pubkey} (h : data.isTokenData = true) :
    data.globalConfig? = none := by
  cases data <;> first | rfl | cases h

theorem rwaAsset?_of_token {data : AccountData Pubkey} (h : data.isTokenData = true) :
    data.rwaAsset? = none := by
  cases data <;> first | rfl | cases h

theorem tokenization?_of_token {data : AccountData Pubkey} (h : data.isTokenData = true) :
    data.tokenization? = none := by
  cases data <;> first | rfl | cases h

theorem mint?_of_record {data : AccountData Pubkey} (h : data.isTokenData = false) :
    data.mint? = none := by
  cases data <;> first | rfl | cases h

theorem tokenAccount?_of_record {data : AccountData Pubkey} (h : data.isTokenData = false) :
    data.tokenAccount? = none := by
  cases data <;> first | rfl | cases h

/-- The units of a mint the account holds. -/
def balance [DecidableEq Pubkey] (m : Pubkey) : AccountData Pubkey → ℕ
  | tokenAccount account => if account.mint = m then account.amount else 0
  | _ => 0

end AccountData

structure Ledger (Pubkey : Type) where
  lamports : Pubkey → ℕ
  accounts : OrderedMap Pubkey (AccountData Pubkey)

variable {Pubkey : Type} [DecidableEq Pubkey]

namespace Ledger

/-- The data at an address. -/
def data? (ledger : Ledger Pubkey) (key : Pubkey) : Option (AccountData Pubkey) :=
  ledger.accounts.get? key

/-- Write the data of an account. -/
def put (ledger : Ledger Pubkey) (key : Pubkey) (data : AccountData Pubkey) : Ledger Pubkey :=
  { ledger with accounts := ledger.accounts.set key data }

/-- Move lamports. -/
def pay (ledger : Ledger Pubkey) (source destination : Pubkey) (amount : ℕ) : Ledger Pubkey :=
  let debited := Function.update ledger.lamports source (ledger.lamports source - amount)
  { ledger with
    lamports := Function.update debited destination (debited destination + amount) }

/-- Write the amount of a token account. -/
def setAmount (ledger : Ledger Pubkey) (key : Pubkey) (account : TokenAccount Pubkey)
    (amount : ℕ) : Ledger Pubkey :=
  ledger.put key (.tokenAccount { account with amount })

/-- Write the supply of a mint. -/
def setSupply (ledger : Ledger Pubkey) (key : Pubkey) (mint : Mint Pubkey) (supply : ℕ) :
    Ledger Pubkey :=
  ledger.put key (.mint { mint with supply })

/-- The data at an address, if it has the kind `kind` reads. -/
def read {β : Type} (ledger : Ledger Pubkey) (kind : AccountData Pubkey → Option β)
    (key : Pubkey) : Option β :=
  (ledger.data? key).bind kind

def globalConfig? (ledger : Ledger Pubkey) : Pubkey → Option (GlobalConfig Pubkey) :=
  ledger.read AccountData.globalConfig?

def rwaAsset? (ledger : Ledger Pubkey) : Pubkey → Option (RwaAsset Pubkey) :=
  ledger.read AccountData.rwaAsset?

def tokenization? (ledger : Ledger Pubkey) : Pubkey → Option (Tokenization Pubkey) :=
  ledger.read AccountData.tokenization?

def mint? (ledger : Ledger Pubkey) : Pubkey → Option (Mint Pubkey) :=
  ledger.read AccountData.mint?

def tokenAccount? (ledger : Ledger Pubkey) : Pubkey → Option (TokenAccount Pubkey) :=
  ledger.read AccountData.tokenAccount?

/-- The units of a mint an account holds. -/
def balance (ledger : Ledger Pubkey) (mint key : Pubkey) : ℕ :=
  (ledger.data? key).elim 0 (AccountData.balance mint)

/-- The supply a mint states. -/
def supply (ledger : Ledger Pubkey) (mint : Pubkey) : ℕ :=
  (ledger.mint? mint).elim 0 Mint.supply

/-- The units of a mint all token accounts hold together. -/
def holdings (ledger : Ledger Pubkey) (mint : Pubkey) : ℕ :=
  ledger.accounts.sum fun _ data => data.balance mint

theorem put_data? (ledger : Ledger Pubkey) (key : Pubkey) (data : AccountData Pubkey) :
    (ledger.put key data).data? = Function.update ledger.data? key (some data) := by
  funext k
  rw [Function.update_apply]
  exact OrderedMap.get?_set _ _ _ _

omit [DecidableEq Pubkey] in
theorem bind_update {α β : Type} [DecidableEq Pubkey] (data? : Pubkey → Option α) (key : Pubkey)
    (data : α) (kind : α → Option β) :
    (fun k => (Function.update data? key (some data) k).bind kind) =
      Function.update (fun k => (data? k).bind kind) key (kind data) := by
  funext k
  rw [Function.update_apply, Function.update_apply]
  split
  · rw [Option.bind_some]
  · rfl

/-- Writing one account changes what any kind reads at its address only. -/
theorem read_update {β : Type} {l l' : Ledger Pubkey} {key : Pubkey} {data : AccountData Pubkey}
    (h : l'.data? = Function.update l.data? key (some data))
    (kind : AccountData Pubkey → Option β) :
    l'.read kind = Function.update (l.read kind) key (kind data) := by
  unfold read
  rw [h]
  exact bind_update _ _ _ _

/-- Where data of another kind lies, or none, writing nothing a kind reads
changes nothing it reads. -/
theorem update_none {β : Type} {f : Pubkey → Option β} {key : Pubkey} (h : f key = none) :
    Function.update f key none = f :=
  Function.update_eq_self_iff.mpr h.symm

theorem put_read {β : Type} (ledger : Ledger Pubkey) (key : Pubkey) (data : AccountData Pubkey)
    (kind : AccountData Pubkey → Option β) :
    (ledger.put key data).read kind = Function.update (ledger.read kind) key (kind data) :=
  read_update (put_data? ledger key data) kind

theorem pay_read {β : Type} (ledger : Ledger Pubkey) (source destination : Pubkey) (n : ℕ)
    (kind : AccountData Pubkey → Option β) :
    (ledger.pay source destination n).read kind = ledger.read kind := rfl

/-- A kind that does not read one half of the accounts does not see a write
within it. -/
theorem read_update_of_half {β : Type} {l l' : Ledger Pubkey} {key : Pubkey}
    {data : AccountData Pubkey} {kind : AccountData Pubkey → Option β} {half : Bool}
    (h : l'.data? = Function.update l.data? key (some data)) (hdata : data.isTokenData = half)
    (hold : ∀ d ∈ l.data? key, d.isTokenData = half)
    (hkind : ∀ {d}, d.isTokenData = half → kind d = none) : l'.read kind = l.read kind := by
  rw [read_update h, hkind hdata, Function.update_eq_self_iff, read]
  cases hd : l.data? key with
  | none => rfl
  | some d => exact (hkind (hold d hd)).symm

theorem read_of_data? {β : Type} {ledger : Ledger Pubkey} {key : Pubkey}
    {data : AccountData Pubkey} (h : ledger.data? key = some data)
    (kind : AccountData Pubkey → Option β) : ledger.read kind key = kind data := by
  rw [read, h, Option.bind_some]

theorem read_of_data?_eq_none {β : Type} {ledger : Ledger Pubkey} {key : Pubkey}
    (h : ledger.data? key = none) (kind : AccountData Pubkey → Option β) :
    ledger.read kind key = none := by
  rw [read, h, Option.bind_none]

/-- Nothing is read where there are no accounts. -/
theorem read_of_empty {β : Type} {ledger : Ledger Pubkey} (h : ledger.accounts = .empty)
    (kind : AccountData Pubkey → Option β) (key : Pubkey) : ledger.read kind key = none := by
  refine read_of_data?_eq_none ?_ kind
  rw [data?, h, OrderedMap.get?_empty]

/-- What is read somewhere is not at a fresh address. -/
theorem ne_of_read {β : Type} {ledger : Ledger Pubkey} {key fresh : Pubkey}
    {kind : AccountData Pubkey → Option β} {record : β} (h : ledger.read kind key = some record)
    (hfresh : ledger.data? fresh = none) : key ≠ fresh := by
  rintro rfl
  rw [read_of_data?_eq_none hfresh] at h
  cases h

/-- What is read somewhere is data. -/
theorem data?_ne_none {β : Type} {ledger : Ledger Pubkey} {key : Pubkey}
    {kind : AccountData Pubkey → Option β} {record : β} (h : ledger.read kind key = some record) :
    ledger.data? key ≠ none :=
  fun hfresh => ne_of_read h hfresh rfl

/-- A record that is read is the data of the account. -/
theorem read_eq_some {β : Type} {ledger : Ledger Pubkey} {kind : AccountData Pubkey → Option β}
    {key : Pubkey} {record : β} {data : AccountData Pubkey}
    (hkind : ∀ d, kind d = some record ↔ d = data) :
    ledger.read kind key = some record ↔ ledger.data? key = some data := by
  rw [read, Option.bind_eq_some_iff]
  constructor
  · rintro ⟨d, hd, h⟩
    rw [hd, (hkind d).mp h]
  · exact fun h => ⟨data, h, (hkind data).mpr rfl⟩

theorem globalConfig?_eq_some {ledger : Ledger Pubkey} {key : Pubkey}
    {config : GlobalConfig Pubkey} :
    ledger.globalConfig? key = some config ↔ ledger.data? key = some (.globalConfig config) :=
  read_eq_some fun d => by cases d <;> simp [AccountData.globalConfig?]

theorem rwaAsset?_eq_some {ledger : Ledger Pubkey} {key : Pubkey} {asset : RwaAsset Pubkey} :
    ledger.rwaAsset? key = some asset ↔ ledger.data? key = some (.rwaAsset asset) :=
  read_eq_some fun d => by cases d <;> simp [AccountData.rwaAsset?]

theorem mint?_eq_some {ledger : Ledger Pubkey} {key : Pubkey} {mint : Mint Pubkey} :
    ledger.mint? key = some mint ↔ ledger.data? key = some (.mint mint) :=
  read_eq_some fun d => by cases d <;> simp [AccountData.mint?]

theorem tokenAccount?_eq_some {ledger : Ledger Pubkey} {key : Pubkey}
    {account : TokenAccount Pubkey} :
    ledger.tokenAccount? key = some account ↔ ledger.data? key = some (.tokenAccount account) :=
  read_eq_some fun d => by cases d <;> simp [AccountData.tokenAccount?]

theorem putAccount_tokenAccount? (ledger : Ledger Pubkey) (key : Pubkey)
    (account : TokenAccount Pubkey) : (ledger.put key (.tokenAccount account)).tokenAccount? =
      Function.update ledger.tokenAccount? key (some account) :=
  put_read _ _ _ _

theorem setAmount_tokenAccount? (ledger : Ledger Pubkey) (key : Pubkey)
    (account : TokenAccount Pubkey) (amount : ℕ) :
    (ledger.setAmount key account amount).tokenAccount? =
      Function.update ledger.tokenAccount? key (some { account with amount }) :=
  put_read _ _ _ _

/-- Writing a token account leaves the mints alone. -/
theorem setAmount_mint? {ledger : Ledger Pubkey} {key : Pubkey} {account : TokenAccount Pubkey}
    (h : ledger.tokenAccount? key = some account) (amount : ℕ) :
    (ledger.setAmount key account amount).mint? = ledger.mint? := by
  rw [setAmount, mint?, mint?, put_read, Function.update_eq_self_iff, read,
    tokenAccount?_eq_some.mp h]
  rfl

theorem setSupply_mint? (ledger : Ledger Pubkey) (key : Pubkey) (mint : Mint Pubkey)
    (supply : ℕ) : (ledger.setSupply key mint supply).mint? =
      Function.update ledger.mint? key (some { mint with supply }) :=
  put_read _ _ _ _

/-- Writing a mint leaves the token accounts alone. -/
theorem setSupply_tokenAccount? {ledger : Ledger Pubkey} {key : Pubkey} {mint : Mint Pubkey}
    (h : ledger.mint? key = some mint) (supply : ℕ) :
    (ledger.setSupply key mint supply).tokenAccount? = ledger.tokenAccount? := by
  rw [setSupply, tokenAccount?, tokenAccount?, put_read, Function.update_eq_self_iff, read,
    mint?_eq_some.mp h]
  rfl

theorem pay_zero (ledger : Ledger Pubkey) (source destination : Pubkey) :
    ledger.pay source destination 0 = ledger := by
  rw [pay, Nat.sub_zero, Function.update_eq_self]
  simp only [Nat.add_zero, Function.update_eq_self]

theorem pay_lamports_of_ne (ledger : Ledger Pubkey) {source destination key : Pubkey} (n : ℕ)
    (hsource : key ≠ source) (hdestination : key ≠ destination) :
    (ledger.pay source destination n).lamports key = ledger.lamports key := by
  rw [pay]
  simp only [Function.update_of_ne hdestination, Function.update_of_ne hsource]

theorem pay_lamports_source (ledger : Ledger Pubkey) {source destination : Pubkey} (n : ℕ)
    (hne : source ≠ destination) :
    (ledger.pay source destination n).lamports source = ledger.lamports source - n := by
  rw [pay]
  simp only [Function.update_of_ne hne, Function.update_self]

theorem pay_lamports_destination (ledger : Ledger Pubkey) {source destination : Pubkey} (n : ℕ)
    (hne : source ≠ destination) :
    (ledger.pay source destination n).lamports destination = ledger.lamports destination + n := by
  rw [pay]
  simp only [Function.update_of_ne hne.symm, Function.update_self]

theorem pay_data? (ledger : Ledger Pubkey) (source destination : Pubkey) (n : ℕ) :
    (ledger.pay source destination n).data? = ledger.data? := rfl

/-! ## Balances -/

theorem balance_eq (ledger : Ledger Pubkey) (mint key : Pubkey) :
    ledger.balance mint key = (ledger.tokenAccount? key).elim 0 fun account =>
      if account.mint = mint then account.amount else 0 := by
  rw [balance, tokenAccount?, read]
  cases ledger.data? key with
  | none => rfl
  | some data => cases data <;> rfl

theorem balance_of_account {ledger : Ledger Pubkey} {key : Pubkey} {account : TokenAccount Pubkey}
    (h : ledger.tokenAccount? key = some account) (mint : Pubkey) :
    ledger.balance mint key = if account.mint = mint then account.amount else 0 := by
  rw [balance_eq, h, Option.elim_some]

theorem balance_of_update {ledger ledger' : Ledger Pubkey} {key : Pubkey}
    {account : TokenAccount Pubkey}
    (h : ledger'.tokenAccount? = Function.update ledger.tokenAccount? key (some account))
    (mint k : Pubkey) : ledger'.balance mint k =
      if k = key then if account.mint = mint then account.amount else 0
      else ledger.balance mint k := by
  rw [balance_eq, balance_eq, h, Function.update_apply]
  split <;> rfl

theorem balance_eq_zero {ledger : Ledger Pubkey} {mint : Pubkey}
    (h : ∀ {key account}, ledger.tokenAccount? key = some account → account.mint ≠ mint)
    (key : Pubkey) : ledger.balance mint key = 0 := by
  rw [balance_eq]
  cases haccount : ledger.tokenAccount? key with
  | none => rfl
  | some account => exact if_neg (h haccount)

theorem supply_of_mint {ledger : Ledger Pubkey} {key : Pubkey} {mint : Mint Pubkey}
    (h : ledger.mint? key = some mint) : ledger.supply key = mint.supply := by
  rw [supply, h, Option.elim_some]

theorem holdings_congr {ledger ledger' : Ledger Pubkey} {mint : Pubkey}
    (h : ∀ key, ledger'.balance mint key = ledger.balance mint key) :
    ledger'.holdings mint = ledger.holdings mint :=
  OrderedMap.sum_congr_elim h

/-- If one account holds all units, the holdings are its balance. -/
theorem holdings_of_single {ledger : Ledger Pubkey} {mint key : Pubkey}
    (h : ∀ j, j ≠ key → ledger.balance mint j = 0) :
    ledger.holdings mint = ledger.balance mint key :=
  OrderedMap.sum_eq_of_single h

/-- Writing an amount changes the holdings by the new amount minus the old. -/
theorem holdings_setAmount {ledger : Ledger Pubkey} {key : Pubkey} {account : TokenAccount Pubkey}
    (h : ledger.tokenAccount? key = some account) (amount : ℕ) (mint : Pubkey) :
    (ledger.setAmount key account amount).holdings mint +
        (if account.mint = mint then account.amount else 0) =
      ledger.holdings mint + if account.mint = mint then amount else 0 :=
  OrderedMap.sum_set_of_get? _ _ (tokenAccount?_eq_some.mp h)

theorem balance_le_holdings (ledger : Ledger Pubkey) (mint key : Pubkey) :
    ledger.balance mint key ≤ ledger.holdings mint := by
  have hle := OrderedMap.sum_finset_le ledger.accounts (fun _ data => data.balance mint) {key}
  rwa [Finset.sum_singleton] at hle

theorem balance_add_le_holdings (ledger : Ledger Pubkey) {key key' : Pubkey} (hne : key ≠ key')
    (mint : Pubkey) :
    ledger.balance mint key + ledger.balance mint key' ≤ ledger.holdings mint := by
  have hle := OrderedMap.sum_finset_le ledger.accounts (fun _ data => data.balance mint)
    {key, key'}
  rwa [Finset.sum_pair hne] at hle

/-! ## Totals over the accounts of a kind -/

/-- The sum of `f` over the accounts of a kind. -/
def total {β : Type} (ledger : Ledger Pubkey) (kind : AccountData Pubkey → Option β)
    (f : β → ℕ) : ℕ :=
  ledger.accounts.sum fun _ data => (kind data).elim 0 f

/-- The number of accounts of a kind with `p`. -/
def count {β : Type} (ledger : Ledger Pubkey) (kind : AccountData Pubkey → Option β)
    (p : β → Bool) : ℕ :=
  ledger.accounts.count fun data => (kind data).any p

section Totals

variable {β : Type} {ledger ledger' : Ledger Pubkey} {kind : AccountData Pubkey → Option β}
  {key : Pubkey} {record : β}

theorem elim_data? (ledger : Ledger Pubkey) (kind : AccountData Pubkey → Option β) (f : β → ℕ)
    (key : Pubkey) : ((ledger.accounts.get? key).elim 0 fun data => (kind data).elim 0 f) =
      (ledger.read kind key).elim 0 f := by
  rw [read, data?]
  cases ledger.accounts.get? key with
  | none => rfl
  | some data => rfl

/-- A total depends on what the kind reads and on nothing else. -/
theorem total_congr (h : ledger'.read kind = ledger.read kind) (f : β → ℕ) :
    ledger'.total kind f = ledger.total kind f := by
  refine OrderedMap.sum_congr_elim fun k => ?_
  rw [elim_data?, elim_data?, h]

/-- Writing one account changes a total by the new contribution minus the old. -/
theorem total_of_update
    (h : ledger'.read kind = Function.update (ledger.read kind) key (some record)) (f : β → ℕ) :
    ledger'.total kind f + (ledger.read kind key).elim 0 f = ledger.total kind f + f record := by
  have hsum : ledger'.total kind f + ((ledger.accounts.get? key).elim 0 fun data =>
      (kind data).elim 0 f) = ledger.total kind f + ((ledger'.accounts.get? key).elim 0 fun data =>
      (kind data).elim 0 f) := by
    refine OrderedMap.sum_of_update (f := fun _ data => (kind data).elim 0 f) fun j hj => ?_
    rw [elim_data?, elim_data?, h, Function.update_of_ne hj]
  rwa [elim_data?, elim_data?, h, Function.update_self, Option.elim_some] at hsum

omit [DecidableEq Pubkey] in
theorem count_eq_total (ledger : Ledger Pubkey) (kind : AccountData Pubkey → Option β)
    (p : β → Bool) : ledger.count kind p = ledger.total kind fun record => (p record).toNat := by
  rw [count, OrderedMap.count_eq_sum, total]
  congr 1
  funext _ data
  cases kind data <;> rfl

/-- A positive total has an account that contributes. -/
theorem exists_of_total_pos {f : β → ℕ} (h : 0 < ledger.total kind f) :
    ∃ key record, ledger.read kind key = some record ∧ 0 < f record := by
  obtain ⟨k, data, hget, hpos⟩ := OrderedMap.exists_of_sum_pos h
  cases hkind : kind data with
  | none =>
      rw [hkind, Option.elim_none] at hpos
      cases hpos
  | some record =>
      rw [hkind, Option.elim_some] at hpos
      exact ⟨k, record, (read_of_data? hget kind).trans hkind, hpos⟩

theorem count_congr (h : ledger'.read kind = ledger.read kind) (p : β → Bool) :
    ledger'.count kind p = ledger.count kind p := by
  rw [count_eq_total, count_eq_total, total_congr h]

theorem count_of_update
    (h : ledger'.read kind = Function.update (ledger.read kind) key (some record))
    (p : β → Bool) : ledger'.count kind p + ((ledger.read kind key).any p).toNat =
      ledger.count kind p + (p record).toNat := by
  have htotal := total_of_update h fun record => (p record).toNat
  rw [count_eq_total, count_eq_total, ← htotal]
  cases ledger.read kind key <;> rfl

omit [DecidableEq Pubkey] in
theorem count_le_count {p q : β → Bool} (h : ∀ record, p record = true → q record = true) :
    ledger.count kind p ≤ ledger.count kind q := by
  refine List.countP_mono_left fun data _ hp => ?_
  rw [Option.any_eq_true] at hp ⊢
  obtain ⟨record, hrecord, hpr⟩ := hp
  exact ⟨record, hrecord, h record hpr⟩

end Totals

end Ledger

/-! ## Computations on the ledger -/

abbrev ProgramM (Pubkey : Type) := EStateM ProgramError (Ledger Pubkey)

/-- Who signed a transaction and when it runs.  Nobody outside the program can
sign for an address the program derives.  Which of the other addresses can sign is left
open. -/
structure Context (Pubkey : Type) [Runtime Pubkey] where
  signers : List Pubkey
  unixTimestamp : ℤ
  signers_external : ∀ seeds, Runtime.findProgramAddress seeds ∉ signers

/-- Why an account of the wrong kind is refused. -/
def Ledger.loadError (ledger : Ledger Pubkey) (isTokenData : Bool) (key : Pubkey) : AnchorError :=
  match ledger.data? key with
  | none =>
      if ledger.lamports key = 0 then .accountNotInitialized else .accountOwnedByWrongProgram
  | some data =>
      if data.isTokenData = isTokenData then .accountDidNotDeserialize
      else .accountOwnedByWrongProgram

/-- Deserialize an account. -/
def load {β : Type} (kind : AccountData Pubkey → Option β) (isTokenData : Bool) (key : Pubkey) :
    ProgramM Pubkey β := do
  let ledger ← get
  orThrow (ledger.read kind key) (.anchor (ledger.loadError isTokenData key))

def loadGlobalConfig : Pubkey → ProgramM Pubkey (GlobalConfig Pubkey) :=
  load AccountData.globalConfig? false

def loadRwaAsset : Pubkey → ProgramM Pubkey (RwaAsset Pubkey) := load AccountData.rwaAsset? false

def loadTokenization : Pubkey → ProgramM Pubkey (Tokenization Pubkey) :=
  load AccountData.tokenization? false

def loadMint : Pubkey → ProgramM Pubkey (Mint Pubkey) := load AccountData.mint? true

def loadTokenAccount : Pubkey → ProgramM Pubkey (TokenAccount Pubkey) :=
  load AccountData.tokenAccount? true

/-- Run a method of a record and write the record back.  What the method wrote
before it failed is written too. -/
def onRecord {α β : Type} (kind : AccountData Pubkey → Option β) (wrap : β → AccountData Pubkey)
    (key : Pubkey) (method : EStateM ProgramError β α) : ProgramM Pubkey α := do
  let record ← load kind false key
  match method.run record with
  | .ok a record => modify (·.put key (wrap record)); return a
  | .error e record => modify (·.put key (wrap record)); throw e

def onGlobalConfig {α : Type} : Pubkey → EStateM ProgramError (GlobalConfig Pubkey) α →
    ProgramM Pubkey α :=
  onRecord AccountData.globalConfig? .globalConfig

def onRwaAsset {α : Type} : Pubkey → EStateM ProgramError (RwaAsset Pubkey) α →
    ProgramM Pubkey α :=
  onRecord AccountData.rwaAsset? .rwaAsset

def onTokenization {α : Type} : Pubkey → EStateM ProgramError (Tokenization Pubkey) α →
    ProgramM Pubkey α :=
  onRecord AccountData.tokenization? .tokenization

theorem load_bind_ok {α β : Type} {kind : AccountData Pubkey → Option β} {isTokenData : Bool}
    {key : Pubkey} {f : β → ProgramM Pubkey α} {a : α} {l l' : Ledger Pubkey} :
    (load kind isTokenData key >>= f).run l = .ok a l' ↔
      ∃ record, l.read kind key = some record ∧ (f record).run l = .ok a l' := by
  rw [load, bind_assoc, get_bind_ok, orThrow_bind_ok]

/-- A successful method replaces the record by what it made of it. -/
theorem onRecord_ok {α β : Type} {kind : AccountData Pubkey → Option β}
    {wrap : β → AccountData Pubkey} {key : Pubkey} {method : EStateM ProgramError β α} {a : α}
    {l l' : Ledger Pubkey} :
    (onRecord kind wrap key method).run l = .ok a l' ↔
      ∃ record record', l.read kind key = some record ∧ method.run record = .ok a record' ∧
        l' = l.put key (wrap record') := by
  rw [onRecord, load_bind_ok]
  constructor
  · rintro ⟨record, hread, h⟩
    cases hrun : method.run record with
    | ok b record' =>
        simp only [hrun, modify_bind_ok, pure_ok] at h
        obtain ⟨rfl, rfl⟩ := h
        exact ⟨record, record', hread, hrun, rfl⟩
    | error e record' => simp only [hrun, modify_bind_ok, throw_ok] at h
  · rintro ⟨record, record', hread, hrun, rfl⟩
    refine ⟨record, hread, ?_⟩
    simp only [hrun, modify_bind_ok, pure_ok, and_self]

theorem onRecord_bind_ok {α β γ : Type} {kind : AccountData Pubkey → Option β}
    {wrap : β → AccountData Pubkey} {key : Pubkey} {method : EStateM ProgramError β α}
    {f : α → ProgramM Pubkey γ} {c : γ} {l l' : Ledger Pubkey} :
    (onRecord kind wrap key method >>= f).run l = .ok c l' ↔
      ∃ a record record', l.read kind key = some record ∧ method.run record = .ok a record' ∧
        (f a).run (l.put key (wrap record')) = .ok c l' := by
  rw [bind_ok]
  constructor
  · rintro ⟨a, _, hrun, h⟩
    obtain ⟨record, record', hread, hmethod, rfl⟩ := onRecord_ok.mp hrun
    exact ⟨a, record, record', hread, hmethod, h⟩
  · rintro ⟨a, record, record', hread, hmethod, h⟩
    exact ⟨a, _, onRecord_ok.mpr ⟨record, record', hread, hmethod, rfl⟩, h⟩

/-! ## The system program

The system program is not part of the repository.  These are the laws the results rely
on.  Lamports leave an account only with its signature and while it has no data, and no
more than it holds.  An account is created once, at an address without data, and holds
the rent its size needs. -/

/-- The `transfer` instruction.  The balance that the runtime wants the payer to keep is
checked after the transaction and not here. -/
def systemTransfer (signers : List Pubkey) (source destination : Pubkey) (amount : ℕ) :
    ProgramM Pubkey Unit := do
  let ledger ← get
  require (source ∈ signers) (.system .missingSignature)
  require (ledger.data? source = none) (.system .fromCarriesData)
  require (amount ≤ ledger.lamports source) (.system .insufficientLamports)
  modify (·.pay source destination amount)

/-- Bring a new account up to the balance its size needs. -/
def payRent (signers : List Pubkey) (payer key : Pubkey) (rent : ℕ) : ProgramM Pubkey Unit :=
  if rent = 0 then pure () else systemTransfer signers payer key rent

/-- Create an account that does not exist yet.  An account that only holds lamports does
not exist, and its lamports count. -/
def createAccount [Runtime Pubkey] (signers : List Pubkey) (payer key : Pubkey) (space : ℕ)
    (data : AccountData Pubkey) : ProgramM Pubkey Unit := do
  let ledger ← get
  payRent signers payer key (Runtime.minimumBalance Pubkey space - ledger.lamports key)
  require (ledger.data? key = none) (.system .accountAlreadyInUse)
  modify (·.put key data)

theorem systemTransfer_ok {signers : List Pubkey} {source destination : Pubkey} {amount : ℕ}
    {u : Unit} {l l' : Ledger Pubkey} :
    (systemTransfer signers source destination amount).run l = .ok u l' ↔
      source ∈ signers ∧ l.data? source = none ∧ amount ≤ l.lamports source ∧
        l' = l.pay source destination amount := by
  simp only [systemTransfer, get_bind_ok, require_bind_ok, modify_ok]

theorem systemTransfer_bind_ok {α : Type} {signers : List Pubkey} {source destination : Pubkey}
    {amount : ℕ} {f : Unit → ProgramM Pubkey α} {a : α} {l l' : Ledger Pubkey} :
    (systemTransfer signers source destination amount >>= f).run l = .ok a l' ↔
      (source ∈ signers ∧ l.data? source = none ∧ amount ≤ l.lamports source) ∧
        (f ()).run (l.pay source destination amount) = .ok a l' := by
  rw [bind_ok]
  constructor
  · rintro ⟨_, _, hrun, h⟩
    obtain ⟨hsigned, hdata, hfunds, rfl⟩ := systemTransfer_ok.mp hrun
    exact ⟨⟨hsigned, hdata, hfunds⟩, h⟩
  · rintro ⟨⟨hsigned, hdata, hfunds⟩, h⟩
    exact ⟨(), _, systemTransfer_ok.mpr ⟨hsigned, hdata, hfunds, rfl⟩, h⟩

theorem payRent_ok {signers : List Pubkey} {payer key : Pubkey} {rent : ℕ} {u : Unit}
    {l l' : Ledger Pubkey} (h : (payRent signers payer key rent).run l = .ok u l') :
    l' = l.pay payer key rent ∧ rent ≤ l.lamports payer ∧ (rent ≠ 0 → l.data? payer = none) := by
  rw [payRent] at h
  split at h
  · next hzero =>
    obtain ⟨-, rfl⟩ := pure_ok.mp h
    rw [hzero, Ledger.pay_zero]
    exact ⟨rfl, Nat.zero_le _, fun hne => absurd rfl hne⟩
  · obtain ⟨-, hdata, hfunds, rfl⟩ := systemTransfer_ok.mp h
    exact ⟨rfl, hfunds, fun _ => hdata⟩

theorem payRent_accounts {signers : List Pubkey} {payer key : Pubkey} {rent : ℕ} {u : Unit}
    {l l' : Ledger Pubkey} (h : (payRent signers payer key rent).run l = .ok u l') :
    l'.accounts = l.accounts := by
  obtain ⟨rfl, -, -⟩ := payRent_ok h
  rfl

/-- A new account appears where there was none. -/
theorem createAccount_ok [Runtime Pubkey] {signers : List Pubkey} {payer key : Pubkey} {space : ℕ}
    {data : AccountData Pubkey} {u : Unit} {l l' : Ledger Pubkey}
    (h : (createAccount signers payer key space data).run l = .ok u l') :
    l.data? key = none ∧ l'.data? = Function.update l.data? key (some data) := by
  rw [createAccount, get_bind_ok, bind_ok] at h
  obtain ⟨_, paid, hpaid, h⟩ := h
  simp only [require_bind_ok, modify_ok] at h
  obtain ⟨hfresh, rfl⟩ := h
  refine ⟨hfresh, ?_⟩
  rw [Ledger.put_data?]
  unfold Ledger.data?
  rw [payRent_accounts hpaid]

/-! ## What an account costs -/

section Rent

variable [Runtime Pubkey]

/-- The lamports that are missing at an address for an account of this size. -/
def Ledger.rentDue (l : Ledger Pubkey) (key : Pubkey) (space : ℕ) : ℕ :=
  Runtime.minimumBalance Pubkey space - l.lamports key

variable {signers : List Pubkey} {payer key : Pubkey} {space : ℕ} {data : AccountData Pubkey}
  {u : Unit} {l l' : Ledger Pubkey}
  (h : (createAccount signers payer key space data).run l = .ok u l')

include h

/-- The payer pays what is missing, and carries no data if that is something. -/
theorem createAccount_lamports :
    l'.lamports = (l.pay payer key (l.rentDue key space)).lamports ∧
      l.rentDue key space ≤ l.lamports payer ∧
      (l.rentDue key space ≠ 0 → l.data? payer = none) := by
  rw [createAccount, get_bind_ok, bind_ok] at h
  obtain ⟨_, paid, hpaid, h⟩ := h
  simp only [require_bind_ok, modify_ok] at h
  obtain ⟨-, rfl⟩ := h
  obtain ⟨rfl, hfunds, hdata⟩ := payRent_ok hpaid
  exact ⟨rfl, hfunds, hdata⟩

/-- Data that is there stays. -/
theorem createAccount_data?_of_data {k : Pubkey} (hdata : l.data? k ≠ none) :
    l'.data? k = l.data? k := by
  obtain ⟨hfresh, hafter⟩ := createAccount_ok h
  have hkey : k ≠ key := fun he => hdata (he ▸ hfresh)
  rw [hafter, Function.update_of_ne hkey]

/-- An account with data neither is created nor pays. -/
theorem createAccount_lamports_of_data {k : Pubkey} (hdata : l.data? k ≠ none) :
    l'.lamports k = l.lamports k := by
  obtain ⟨hlamports, -, hpayer⟩ := createAccount_lamports h
  have hfresh := (createAccount_ok h).1
  have hkey : k ≠ key := fun he => hdata (he ▸ hfresh)
  rw [hlamports]
  by_cases hzero : l.rentDue key space = 0
  · rw [hzero, Ledger.pay_zero]
  · exact Ledger.pay_lamports_of_ne _ _ (fun he => hdata (he ▸ hpayer hzero)) hkey

theorem createAccount_lamports_payer (hne : payer ≠ key) :
    l'.lamports payer + l.rentDue key space = l.lamports payer := by
  obtain ⟨hlamports, hfunds, -⟩ := createAccount_lamports h
  rw [hlamports, Ledger.pay_lamports_source _ _ hne]
  exact Nat.sub_add_cancel hfunds

theorem createAccount_lamports_other {k : Pubkey} (hpayer : k ≠ payer) (hkey : k ≠ key) :
    l'.lamports k = l.lamports k := by
  rw [(createAccount_lamports h).1]
  exact Ledger.pay_lamports_of_ne _ _ hpayer hkey

end Rent

end RwaTokenization
