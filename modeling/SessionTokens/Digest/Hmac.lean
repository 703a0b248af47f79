import SessionTokens.Digest.Sha256

/-! Keyed digests. A key enters only through its 64-byte block, so two keys with one block
sign alike. -/

namespace SessionTokens.Hmac

/-- A key longer than a block is digested first; the rest of the block is zero. -/
def keyBlock (key : List UInt8) : List UInt8 :=
  let key := if key.length > 64 then Sha256.digest key else key
  key ++ List.replicate (64 - key.length) 0

def blockTag (block message : List UInt8) : List UInt8 :=
  Sha256.digest (block.map (· ^^^ 0x5c) ++
    Sha256.digest (block.map (· ^^^ 0x36) ++ message))

def tag (key message : List UInt8) : List UInt8 :=
  blockTag (keyBlock key) message

end SessionTokens.Hmac
