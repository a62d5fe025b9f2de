/-!
# Registered numbers

The numbers that the COSE registries assign to key parameters, key types, algorithms and curves,
as far as the library uses them, and the two parties of a key agreement.
-/

set_option autoImplicit false

namespace DeviceTrust

/-- The labels of key parameters. Keys of both types share the labels for curve and `x`. -/
inductive KeyLabel where
  | kty | kid | alg | crv | x | y | d
  deriving DecidableEq, Repr

namespace KeyLabel

def number : KeyLabel → Int
  | kty => 1 | kid => 2 | alg => 3 | crv => -1 | x => -2 | y => -3 | d => -4

def name : KeyLabel → String
  | kty => "KTY" | kid => "KID" | alg => "ALG" | crv => "CRV" | x => "X" | y => "Y" | d => "D"

/-- The name of a parameter in reports. -/
def field : KeyLabel → String
  | kty => "kty" | kid => "kid" | alg => "alg" | crv => "crv" | x => "x" | y => "y" | d => "d"

def all : List KeyLabel := [kty, kid, alg, crv, x, y, d]

end KeyLabel

/-- The types of keys: octet pairs for the Montgomery and Edwards curves, two coordinates for the
others. -/
inductive KeyType where
  | okp | ec2
  deriving DecidableEq, Repr

namespace KeyType

def number : KeyType → Int
  | okp => 1 | ec2 => 2

def name : KeyType → String
  | okp => "OKP" | ec2 => "EC2"

def all : List KeyType := [okp, ec2]

end KeyType

inductive Algorithm where
  | a256gcm | es256 | eddsa | ecdhEsHkdf256
  deriving DecidableEq, Repr

namespace Algorithm

def number : Algorithm → Int
  | a256gcm => 3 | es256 => -7 | eddsa => -8 | ecdhEsHkdf256 => -25

def name : Algorithm → String
  | a256gcm => "A256GCM" | es256 => "ES256" | eddsa => "EDDSA"
  | ecdhEsHkdf256 => "ECDH_ES_HKDF_256"

def all : List Algorithm := [a256gcm, es256, eddsa, ecdhEsHkdf256]

end Algorithm

inductive Curve where
  | p256 | x25519 | ed25519
  deriving DecidableEq, Repr

namespace Curve

def number : Curve → Int
  | p256 => 1 | x25519 => 4 | ed25519 => 6

def name : Curve → String
  | p256 => "P256" | x25519 => "X25519" | ed25519 => "ED25519"

def all : List Curve := [p256, x25519, ed25519]

/-- The algorithm that a key on the curve is for. -/
def algorithm : Curve → Algorithm
  | p256 => .es256 | x25519 => .ecdhEsHkdf256 | ed25519 => .eddsa

end Curve

/-- A number written by its registered name: it counts as the number everywhere but in messages. -/
inductive Registered where
  | label (l : KeyLabel)
  | algorithm (a : Algorithm)
  deriving DecidableEq, Repr

namespace Registered

def number : Registered → Int
  | label l => l.number
  | algorithm a => a.number

def registry : Registered → String
  | label _ => "KeyLabel"
  | algorithm _ => "Algorithm"

def name : Registered → String
  | label l => l.name
  | algorithm a => a.name

end Registered

/-- The two parties of a key agreement. The device always comes first in the context, whichever
side derives the key. -/
inductive Party where
  | device | server
  deriving DecidableEq, Repr

namespace Party

/-- The name by which the context identifies a party. -/
def identity : Party → String
  | device => "device" | server => "server"

def name : Party → String
  | device => "DEVICE" | server => "SERVER"

def all : List Party := [device, server]

end Party

end DeviceTrust
