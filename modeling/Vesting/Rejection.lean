/-
# Why the vesting program refuses

A `Code` is a class of refusals, and the classes form a tree.  A `Rejection` is one cause; its
class and its wording are functions of the cause, written down once.
-/
import Vesting.Key
import Vesting.Command.Kind

namespace Vesting

/-! ## 1. Classes of refusals -/

/-- The classes of refusals. -/
inductive Code
  | vestingError
  | decodeError
  | tooShort
  | invalidBoolean
  | unknownTag
  | validationError
  | invalidArgument
  | missingRequiredSignature
  | invalidAccountData
  | insufficientFunds
  | invalidInstructionData
  | missingAccount
  | hostError
deriving DecidableEq, Repr

namespace Code

/-- Every class, general ones first. -/
def all : List Code :=
  [vestingError, decodeError, tooShort, invalidBoolean, unknownTag, validationError,
   invalidArgument, missingRequiredSignature, invalidAccountData, insufficientFunds,
   invalidInstructionData, missingAccount, hostError]

/-- The name of a class. -/
def name : Code → String
  | vestingError => "VestingError"
  | decodeError => "DecodeError"
  | tooShort => "TooShort"
  | invalidBoolean => "InvalidBoolean"
  | unknownTag => "UnknownTag"
  | validationError => "ValidationError"
  | invalidArgument => "InvalidArgument"
  | missingRequiredSignature => "MissingRequiredSignature"
  | invalidAccountData => "InvalidAccountData"
  | insufficientFunds => "InsufficientFunds"
  | invalidInstructionData => "InvalidInstructionData"
  | missingAccount => "MissingAccount"
  | hostError => "HostError"

/-- The classes above a class, nearest first: bytes that do not decode, conditions that do not
hold and refusals of the ledger are kept apart, and all belong to the vesting program. -/
def ancestors : Code → List Code
  | vestingError => []
  | decodeError | validationError | hostError => [vestingError]
  | tooShort | invalidBoolean | unknownTag => [decodeError, vestingError]
  | invalidArgument | missingRequiredSignature | invalidAccountData | insufficientFunds
  | invalidInstructionData | missingAccount => [validationError, vestingError]

/-- The wording of a refusal of this class: its name stands in for a message that is missing. -/
def wording (c : Code) (message : Option String) : String :=
  match message with
  | none => c.name
  | some m => if m.isEmpty then c.name else m

/-- How a refusal is shown: its class, and its wording unless that only repeats the class. -/
def display (c : Code) (message : String) : String :=
  if message = c.name then message else s!"{c.name}: {message}"

end Code

/-! ## 2. Roles of accounts -/

/-- The part that an account plays in a command. -/
inductive Role
  | systemProgram
  | rentSysvar
  | payer
  | vesting
  | tokenProgram
  | escrow
  | sourceOwner
  | source
  | clockSysvar
  | destination
  | currentDestination
  | currentOwner
  | newDestination
deriving DecidableEq, Repr

/-- The name of a role. -/
def Role.name : Role → String
  | systemProgram => "system program"
  | rentSysvar => "rent sysvar"
  | payer => "payer"
  | vesting => "vesting"
  | tokenProgram => "token program"
  | escrow => "vesting token"
  | sourceOwner => "source token owner"
  | source => "source token"
  | clockSysvar => "clock sysvar"
  | destination => "destination token"
  | currentDestination => "current destination token"
  | currentOwner => "current destination owner"
  | newDestination => "new destination token"

/-! ## 3. Causes -/

/-- The causes for which the vesting program, its ledger or a cluster refuses. -/
inductive Rejection
  /-- A command of no bytes. -/
  | emptyCommand
  /-- A command with `got` bytes behind its tag, too few for its kind. -/
  | shortCommand (kind : Command.Kind) (got : Nat)
  /-- A command whose tag names no kind. -/
  | unknownTag (tag : UInt8)
  /-- A tranche of `got` bytes. -/
  | shortTranche (got : Nat)
  /-- A list of tranches with `count` bytes that make no whole one. -/
  | trailingBytes (count : Nat)
  /-- A header of `got` bytes. -/
  | shortHeader (got : Nat)
  /-- A header whose flag is neither 0 nor 1. -/
  | badFlag (value : UInt8)
  /-- A token account of `got` bytes. -/
  | tokenLength (got : Nat)
  /-- A token account whose state says that it was never opened. -/
  | tokenUnopened
  /-- A token account in a state that does not exist. -/
  | tokenState (state : UInt8)
  /-- A token account with an optional field that is marked neither absent nor present. -/
  | optionTag (tag : Nat)
  /-- Seeds of `got` bytes. -/
  | seedsLength (got : Nat)
  /-- Seeds whose hash is a point of the curve. -/
  | offAddress
  /-- No account is given for a role. -/
  | missingAccount (role : Role)
  /-- The seeds of a command have no address. -/
  | badSeeds (why : Rejection)
  /-- The vesting account is not at the address of the seeds. -/
  | addressMismatch
  /-- The account given as system program is another one. -/
  | wrongSystemProgram
  /-- The account given as rent sysvar is another one. -/
  | wrongRentSysvar
  /-- The account given as token program is another one. -/
  | wrongTokenProgram
  /-- The account given as clock sysvar is another one. -/
  | wrongClockSysvar
  /-- The owner of the source did not sign. -/
  | sourceUnsigned
  /-- The vesting account belongs to another program. -/
  | foreignRecord
  /-- The vesting account already holds a contract. -/
  | alreadyInitialized
  /-- An account does not hold a token account. -/
  | notTokenAccount (role : Role) (why : Rejection)
  /-- The escrow belongs to someone else. -/
  | escrowOwner
  /-- The escrow has a delegate. -/
  | escrowDelegate
  /-- The escrow has a close authority. -/
  | escrowCloseAuthority
  /-- The record has not the length that the tranches need. -/
  | recordLength (got expected : Nat)
  /-- The amounts of the tranches add up to more than 64 bits hold. -/
  | totalOverflow
  /-- The source holds less than the tranches need. -/
  | sourceShort (has needs : Nat)
  /-- The record is shorter than a header. -/
  | recordShort
  /-- The destination is not the one that the contract names. -/
  | destinationMismatch
  /-- No tranche is due. -/
  | nothingDue
  /-- The owner of the current destination did not sign. -/
  | destinationUnsigned
  /-- The current destination belongs to someone else. -/
  | destinationOwner
  /-- A command for a program that the ledger does not run. -/
  | notLoaded (program : Key)
  /-- A transaction without a signature that it needs. -/
  | missingSignature (key : Key)
  /-- The payer of a new account did not sign. -/
  | payerUnsigned (key : Key)
  /-- A new account did not sign. -/
  | newUnsigned (key : Key)
  /-- A new account is not empty. -/
  | inUse (key : Key)
  /-- A new account is larger than any may be. -/
  | tooLarge (size : Int)
  /-- The payer of a new account holds too little. -/
  | payerShort (has needs : Int)
  /-- A transfer by a program that is not the token program. -/
  | unknownTokenProgram (key : Key)
  /-- A transfer from or to an account of another program. -/
  | notTokenOwned (key : Key)
  /-- A transfer between accounts of two mints. -/
  | mintMismatch
  /-- A transfer from or to a frozen account. -/
  | frozen
  /-- A transfer on behalf of someone who does not own the source. -/
  | notOwner (authority source : Key)
  /-- A transfer that the owner of the source did not sign. -/
  | transferUnsigned (authority : Key)
  /-- A transfer of more than the source holds. -/
  | balanceShort (has amount : Int)
  /-- A transfer of more than the destination can take. -/
  | balanceOverflow (has amount : Int)
  /-- A cluster that knows no account of this key. -/
  | notFound (key : Key)
deriving DecidableEq

namespace Rejection

/-- The class of a cause. -/
def code : Rejection → Code
  | emptyCommand | shortCommand .. | shortTranche _ | trailingBytes _ | shortHeader _ => .tooShort
  | unknownTag _ => .unknownTag
  | badFlag _ => .invalidBoolean
  | tokenLength _ | tokenUnopened | tokenState _ | optionTag _ | notTokenAccount .. | escrowDelegate
  | escrowCloseAuthority | recordLength .. | recordShort => .invalidAccountData
  | seedsLength _ | offAddress | badSeeds _ | addressMismatch | wrongSystemProgram
  | wrongRentSysvar | wrongTokenProgram | wrongClockSysvar | foreignRecord | alreadyInitialized
  | escrowOwner | destinationMismatch | nothingDue | destinationUnsigned
  | destinationOwner => .invalidArgument
  | missingAccount _ => .missingAccount
  | sourceUnsigned => .missingRequiredSignature
  | totalOverflow => .invalidInstructionData
  | sourceShort .. => .insufficientFunds
  | notLoaded _ | missingSignature _ | payerUnsigned _ | newUnsigned _ | inUse _ | tooLarge _
  | payerShort .. | unknownTokenProgram _ | notTokenOwned _ | mintMismatch | frozen | notOwner ..
  | transferUnsigned _ | balanceShort .. | balanceOverflow .. | notFound _ => .hostError

/-- The wording of a cause. -/
def message : Rejection → String
  | emptyCommand => "instruction data is empty"
  | shortCommand kind got => s!"{kind.name} payload needs {kind.payload} bytes, got {got}"
  | unknownTag tag => s!"unsupported instruction tag {tag.toNat}"
  | shortTranche got => s!"schedule needs 16 bytes, got {got}"
  | trailingBytes count => s!"schedule list has {count} trailing bytes"
  | shortHeader got => s!"header needs 65 bytes, got {got}"
  | badFlag value => s!"initialized flag must be 0 or 1, got {value.toNat}"
  | tokenLength got => s!"token account must be 165 bytes, got {got}"
  | tokenUnopened => "token account is not initialized"
  | tokenState state => s!"token account has invalid state {state.toNat}"
  | optionTag tag => s!"invalid option tag {tag}"
  | seedsLength got => s!"seeds must be 32 bytes, got {got}"
  | offAddress => "seeds do not produce a valid program address"
  | missingAccount role => s!"missing {role.name} account"
  | badSeeds why => s!"invalid vesting seeds: {why.message}"
  | addressMismatch => "provided vesting account does not match the seeds"
  | wrongSystemProgram => "provided system program account is invalid"
  | wrongRentSysvar => "provided rent sysvar account is invalid"
  | wrongTokenProgram => "provided token program account is invalid"
  | wrongClockSysvar => "provided clock sysvar account is invalid"
  | sourceUnsigned => "source token account owner should be a signer"
  | foreignRecord => "vesting account should be owned by the vesting program"
  | alreadyInitialized => "cannot overwrite an existing vesting contract"
  | notTokenAccount role why => s!"{role.name} account is not a valid token account: {why.message}"
  | escrowOwner => "vesting token account should be owned by the vesting account"
  | escrowDelegate => "vesting token account should not have a delegate"
  | escrowCloseAuthority => "vesting token account should not have a close authority"
  | recordLength got expected => s!"vesting account data is {got} bytes, expected {expected}"
  | totalOverflow => "total vesting amount overflows u64"
  | sourceShort has needs => s!"source token account has {has}, needs {needs}"
  | recordShort => "vesting account data should never be shorter than the header"
  | destinationMismatch => "contract destination account does not match provided account"
  | nothingDue => "vesting contract has not yet reached release time"
  | destinationUnsigned => "destination token account owner should be a signer"
  | destinationOwner => "current destination token account isn't owned by the provided owner"
  | notLoaded program => s!"program {program} is not loaded"
  | missingSignature key => s!"missing signature for {key}"
  | payerUnsigned key => s!"payer {key} did not sign"
  | newUnsigned key => s!"new account {key} did not sign"
  | inUse key => s!"account {key} already in use"
  | tooLarge size => s!"requested size {size} exceeds 10485760"
  | payerShort has needs => s!"payer has {has} lamports, needs {needs}"
  | unknownTokenProgram key => s!"unknown token program {key}"
  | notTokenOwned key => s!"{key} is not a token account"
  | mintMismatch => "token accounts have different mints"
  | frozen => "token account is frozen"
  | notOwner authority source => s!"{authority} is not the owner of {source}"
  | transferUnsigned authority => s!"transfer authority {authority} did not sign"
  | balanceShort has amount => s!"insufficient token balance: {has} < {amount}"
  | balanceOverflow has amount => s!"destination balance would overflow: {has} + {amount}"
  | notFound key => s!"account {key} not found"

/-- How a refusal is shown. -/
def text (r : Rejection) : String := r.code.display r.message

end Rejection
end Vesting
