/-
# What can go wrong

Everything that this library reports instead of a result, as a cause, with its wording beside it.
A `Rejection` is the vesting program saying no; the rest are values outside their domain, bytes
that do not fit, files and texts that cannot be read, and the world outside.
-/
import Vesting.Rejection
import Vesting.Bytes.Base64
import Vesting.Text.Quoted

namespace Vesting

/-! ## 1. Values outside their domain -/

/-- A value that does not belong where it was found. -/
inductive Invalid
  /-- Not an integer. -/
  | notInteger (field : String)
  /-- Not a number of 64 bits. -/
  | outsideU64 (field : String)
  /-- Not a number of 32 bits. -/
  | outsideU32 (field : String)
  /-- Seeds of another length than 32 bytes. -/
  | seedsLength
  /-- A key of `got` bytes. -/
  | keyLength (got : Nat)
  /-- A secret of `got` bytes. -/
  | keypairLength (got : Nat)
  /-- A number that is no byte. -/
  | byteRange
  /-- A length below zero. -/
  | negativeLength
  /-- A path with the character U+0000 in it. -/
  | nullByte
  /-- An account of `size` bytes, too few for a record. -/
  | notRecord (address : Key) (size : Nat)
  /-- A seed phrase of no bytes. -/
  | emptyPhrase
  /-- Seeds that are not 64 hexadecimal digits. -/
  | notHexSeeds
  /-- A text that is no integer literal. -/
  | literal (text : String)
  /-- An integer literal with too many digits. -/
  | tooManyDigits (count : Nat)
  /-- Neither an integer nor a text. -/
  | notIntegerOrText (field : String)
  /-- A text of white space where a number belongs. -/
  | blank (field : String)
  /-- Not a text, or one of white space, where a key belongs. -/
  | notAddress (field : String)
  /-- A text that is no key. -/
  | badAddress (field value : String)
  /-- Schedules that are no array. -/
  | schedulesNotArray
  /-- An entry of the schedules that is no table. -/
  | scheduleNotTable (index : Nat)
  /-- A cluster setting that is no text. -/
  | clusterNotText (key : String)
  /-- A seed that is no text. -/
  | seedNotText
  /-- A source owner that is no path. -/
  | ownerNotPath
  /-- A cluster that has no name here. -/
  | unknownCluster (name : String)
  /-- A tranche on the command line without a colon. -/
  | scheduleForm (text : String)
  /-- Command data with a character at `position` that is no hexadecimal digit. -/
  | badHex (position : Nat)
  /-- Command data that is no base-64 text. -/
  | badBase64 (why : Base64.Malformed)
  /-- Base-64 text that does not decode. -/
  | base64 (why : Base64.Malformed)
  /-- A level of events that has no such name. -/
  | unknownLevel (name : String)
  /-- No seeds for a command that has some. -/
  | seedsOption (kind : String)
  /-- No mint or no destination for a contract. -/
  | createOptions
  /-- No seed on the command line or in the settings. -/
  | noSeed
  /-- No payer on the command line or in the settings. -/
  | noPayer
  /-- No seed in the settings of a contract to be shown. -/
  | seedUnset
  /-- No seed in the settings of a contract to be simulated. -/
  | simulateSeed
  /-- No schedules in the settings of a contract to be simulated. -/
  | simulateSchedules
  /-- No schedules in the settings of a contract to be created. -/
  | createSchedules
  /-- Keys missing in the settings of a contract to be created. -/
  | createKeys (names : List String)
deriving DecidableEq

/-- The wording of a value's fault. -/
def Invalid.message : Invalid → String
  | notInteger field => s!"{field} must be an integer"
  | outsideU64 field => s!"{field} must be within u64 range"
  | outsideU32 field => s!"{field} must be within u32 range"
  | seedsLength => "seeds must be 32 bytes"
  | keyLength got => s!"expected a sequence of length 32 (got {got})"
  | keypairLength got => s!"expected a sequence of length 64 (got {got})"
  | byteRange => "bytes must be in range(0, 256)"
  | negativeLength => "negative count"
  | nullByte => "embedded null byte"
  | notRecord address size => s!"account {address} holds {size} bytes, not a vesting record"
  | emptyPhrase => "seed phrase must not be empty"
  | notHexSeeds => "seeds must be 64 hex characters"
  | literal text =>
    "invalid literal for int() with base 0: " ++ String.ofList ((Text.quoted text.toList).take 200)
  | tooManyDigits count =>
    s!"Exceeds the limit (4300 digits) for integer string conversion: value has {count} digits; "
      ++ "use sys.set_int_max_str_digits() to increase the limit"
  | notIntegerOrText field => s!"{field} must be an integer or string"
  | blank field => s!"{field} must not be empty"
  | notAddress field => s!"{field} must be a base58 address"
  | badAddress field value => s!"{field} is not a valid base58 address: {value}"
  | schedulesNotArray => "schedules must be an array of tables"
  | scheduleNotTable index => s!"schedules[{index}] must be a table"
  | clusterNotText key => s!"cluster.{key} must be a string"
  | seedNotText => "contract.seed must be a string"
  | ownerNotPath => "contract.source_owner must be a keypair path"
  | unknownCluster name => s!"unknown cluster '{name}' (expected localnet, devnet or mainnet)"
  | scheduleForm text => s!"schedule must be RELEASE_TIME:AMOUNT, got '{text}'"
  | badHex position =>
    "could not decode instruction data: non-hexadecimal number found in fromhex() arg at position "
      ++ toString position
  | badBase64 why => s!"could not decode instruction data: {why.message}"
  | base64 why => why.message
  | unknownLevel name => "Unknown level: " ++ String.ofList (Text.quoted name.toList)
  | seedsOption kind => s!"--seeds is required for {kind}"
  | createOptions => "--mint and --destination are required for create"
  | noSeed => "no seed given; pass --seed or set contract.seed in the config"
  | noPayer => "no payer keypair; pass --payer or set cluster.payer"
  | seedUnset => "contract.seed is not set"
  | simulateSeed => "contract.seed is required to simulate"
  | simulateSchedules => "at least one [[schedules]] entry is required to simulate"
  | createSchedules => "at least one [[schedules]] entry is required"
  | createKeys names => "contract is missing: " ++ ", ".intercalate names

/-! ## 2. Files and signatures -/

/-- Why the file system refuses. -/
inductive FileFault
  | notFound
  | alreadyExists
  | notDirectory
  | isDirectory
  | tooLong
  | linkLoop
deriving DecidableEq

namespace FileFault

/-- The number of a refusal. -/
def number : FileFault → Nat
  | notFound => 2
  | alreadyExists => 17
  | notDirectory => 20
  | isDirectory => 21
  | tooLong => 36
  | linkLoop => 40

/-- The wording of a refusal. -/
def reason : FileFault → String
  | notFound => "No such file or directory"
  | alreadyExists => "File exists"
  | notDirectory => "Not a directory"
  | isDirectory => "Is a directory"
  | tooLong => "File name too long"
  | linkLoop => "Too many levels of symbolic links"

end FileFault

/-- Why a transaction cannot be signed. -/
inductive SigningFault
  /-- A key that has to sign has no secret here. -/
  | notEnough
  /-- A secret signs for no key of the transaction. -/
  | foreign
deriving DecidableEq

/-- The wording of a signing fault. -/
def SigningFault.message : SigningFault → String
  | notEnough => "not enough signers"
  | foreign => "keypair-pubkey mismatch"

/-! ## 3. Numbers without bounds -/

/-- What becomes too large for a machine. -/
inductive Overflow
  /-- A position in a byte string. -/
  | position
  /-- The size of a byte string. -/
  | size
  /-- A byte string and what goes with it. -/
  | bytes
deriving DecidableEq

/-- The wording of an overflow. -/
def Overflow.message : Overflow → String
  | position => "Python int too large to convert to C ssize_t"
  | size => "cannot fit 'int' into an index-sized integer"
  | bytes => "byte string is too large"

/-! ## 4. All faults -/

/-- Everything that is reported instead of a result. -/
inductive Fault
  /-- The vesting program, its ledger or a cluster says no. -/
  | rejected (why : Rejection)
  /-- A value is outside its domain. -/
  | invalid (why : Invalid)
  /-- A value or a byte string does not fit where it is to be written. -/
  | misfit
  /-- A number is too large for a machine. -/
  | overflow (why : Overflow)
  /-- A byte string is too large for the memory. -/
  | outOfMemory
  /-- The ledger has no account of this key. -/
  | unknownAccount (key : Key)
  /-- There is no account to change. -/
  | noAccount
  /-- There is no settings file. -/
  | noSettings (path : String)
  /-- The file system refuses. -/
  | file (why : FileFault) (path : String)
  /-- The cluster cannot be reached. -/
  | unreachable (message : String)
  /-- A home directory is not known. -/
  | noHome
  /-- A path leads into links that lead to each other. -/
  | linkLoop (path : String)
  /-- A value has a type that cannot be used. -/
  | wrongType
  /-- Settings that are no table. -/
  | notTable
  /-- A text is no TOML document. -/
  | notToml
  /-- A text is no JSON document. -/
  | notJson
  /-- Values or folders are too deep inside each other. -/
  | tooDeep
  /-- Bytes are no UTF-8 text. -/
  | notUtf8
  /-- A transaction cannot be signed. -/
  | unsigned (why : SigningFault)
  /-- No seeds with a given start have an address. -/
  | noAddress
deriving DecidableEq

namespace Fault

/-- The wording of a fault. -/
def message : Fault → String
  | rejected why => why.text
  | invalid why => why.message
  | misfit => "value does not fit"
  | overflow why => why.message
  | outOfMemory => "out of memory"
  | unknownAccount key => s!"unknown account {key}"
  | noAccount => "there is no account"
  | noSettings path => s!"Vesting config not found: {path}"
  | file why path =>
    s!"[Errno {why.number}] {why.reason}: " ++ String.ofList (Text.quoted path.toList)
  | unreachable message => message
  | noHome => "Could not determine home directory."
  | linkLoop path => "Symlink loop from " ++ String.ofList (Text.quoted path.toList)
  | wrongType => "value has an unusable type"
  | notTable => "settings are no table"
  | notToml => "invalid TOML document"
  | notJson => "invalid JSON document"
  | tooDeep => "maximum recursion depth exceeded"
  | notUtf8 => "invalid UTF-8 text"
  | unsigned why => why.message
  | noAddress => "Unable to find a viable program address bump seed"

/-- Faults of the vesting program itself. -/
def isRejection : Fault → Bool
  | rejected _ => true
  | _ => false

/-- Faults of a value or of a text that was to be read. -/
def isValue : Fault → Bool
  | invalid _ | notToml | notJson | notUtf8 => true
  | _ => false

/-- A file that does not exist. -/
def isMissingFile : Fault → Bool
  | noSettings _ | file .notFound _ => true
  | _ => false

/-- Faults of the system around the program: its files and its network. -/
def isSystem : Fault → Bool
  | noSettings _ | file .. | unreachable _ => true
  | _ => false

end Fault

/-- A computation in two steps ends well if both do. -/
theorem bind_eq_ok_iff {ε α β : Type} {x : Except ε α} {f : α → Except ε β} {b : β} :
    x >>= f = .ok b ↔ ∃ a, x = .ok a ∧ f a = .ok b := by
  cases x <;> simp [bind, Except.bind]

/-- It breaks off if the first step does, or else if the second does. -/
theorem bind_eq_error_iff {ε α β : Type} {x : Except ε α} {f : α → Except ε β} {why : ε} :
    x >>= f = .error why ↔ x = .error why ∨ ∃ a, x = .ok a ∧ f a = .error why := by
  cases x <;> simp [bind, Except.bind]

end Vesting
