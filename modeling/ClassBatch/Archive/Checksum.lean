/-! The cyclic redundancy check of archives, over the reversed polynomial `EDB88320`. -/

namespace ClassBatch.Archive

def checksumBit (r : UInt32) : UInt32 :=
  if r &&& 1 = 1 then (r >>> 1) ^^^ 0xEDB88320 else r >>> 1

def checksumByte (r : UInt32) (b : UInt8) : UInt32 :=
  let r := r ^^^ b.toUInt32
  checksumBit (checksumBit (checksumBit (checksumBit
    (checksumBit (checksumBit (checksumBit (checksumBit r)))))))

def checksum (s : List UInt8) : UInt32 :=
  s.foldl checksumByte 0xFFFFFFFF ^^^ 0xFFFFFFFF

end ClassBatch.Archive
