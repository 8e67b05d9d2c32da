import ChainClient.Wire.Schema

/-!
# The messages of the chain

The body of a transaction and the envelope that carries it with its signature.
-/

namespace ChainClient

namespace Wire

/-- The file that declares the messages, and the syntax it is written in. -/
def fileName : Text := "cita/blockchain.proto"
def fileSyntax : Text := "proto3"

/-- The package of the messages' names. -/
def package : Text := "cita"

/-- The body of a transaction on the wire. -/
structure TransactionMessage where
  recipient : Text := []
  nonce : Text := []
  quota : UInt64 := 0
  validUntilBlock : UInt64 := 0
  data : Bytes := []
  value : Bytes := []
  chainId : Int32 := 0
  version : Int32 := 0
  unknown : Bytes := []
deriving DecidableEq

namespace TransactionMessage

/-- The schema of transaction bodies. -/
def schema : Schema TransactionMessage where
  name := "Transaction"
  fields :=
    [.string "to" 1 recipient fun v m => { m with recipient := v },
      .string "nonce" 2 nonce fun v m => { m with nonce := v },
      .uint64 "quota" 3 quota fun v m => { m with quota := v },
      .uint64 "valid_until_block" 4 validUntilBlock fun v m => { m with validUntilBlock := v },
      .bytes "data" 5 data fun v m => { m with data := v },
      .bytes "value" 6 value fun v m => { m with value := v },
      .signed .int32 "chain_id" 7 chainId fun v m => { m with chainId := v },
      .signed .int32 "version" 8 version fun v m => { m with version := v }]
  empty := {}
  unknown := unknown
  keepUnknown raw m := { m with unknown := m.unknown ++ raw }

/-- The bytes of a transaction body. -/
def encode (m : TransactionMessage) : Bytes :=
  schema.encode m

/-- The transaction body that bytes denote. -/
def decode? (input : Bytes) : Option TransactionMessage :=
  schema.decode? input

end TransactionMessage

/-- A transaction body with the signature over its bytes. -/
structure EnvelopeMessage where
  transaction : Option TransactionMessage := none
  signature : Bytes := []
  crypto : Int32 := 0
  unknown : Bytes := []
deriving DecidableEq

namespace EnvelopeMessage

/-- The full name of a type of the package. -/
def qualified (name : Text) : Text :=
  Text.join [".", package, ".", name]

/-- The name of the enumeration of signature schemes. -/
def cryptoName : Text := "Crypto"

/-- The names of the signature schemes on the wire, with their tags. -/
def cryptoValues : List (Text × Nat) :=
  [("SECP", 0), ("ED25519", 1)]

/-- The schema of envelopes. -/
def schema : Schema EnvelopeMessage where
  name := "UnverifiedTransaction"
  fields :=
    [TransactionMessage.schema.nested (qualified TransactionMessage.schema.name) "transaction" 1
        transaction fun v m => { m with transaction := some v },
      .bytes "signature" 2 signature fun v m => { m with signature := v },
      .signed (.enumeration (qualified cryptoName)) "crypto" 3 crypto
        fun v m => { m with crypto := v }]
  empty := {}
  unknown := unknown
  keepUnknown raw m := { m with unknown := m.unknown ++ raw }

/-- The bytes of an envelope. -/
def encode (m : EnvelopeMessage) : Bytes :=
  schema.encode m

/-- The envelope that bytes denote. -/
def decode? (input : Bytes) : Option EnvelopeMessage :=
  schema.decode? input

end EnvelopeMessage

end Wire

end ChainClient
