import TopDown.Unicode.RangeTable

namespace TopDown.Unicode

def otherIdStart : RangeTable where
  ranges := [(0x1885, 0x1886), (0x2118, 0x2118), (0x212e, 0x212e), (0x309b, 0x309c)]

def otherIdContinue : RangeTable where
  ranges := [(0xb7, 0xb7), (0x387, 0x387), (0x1369, 0x1371), (0x19da, 0x19da)]

def patternSyntax : RangeTable where
  ranges :=
    [(0x21, 0x2f), (0x3a, 0x40), (0x5b, 0x5e), (0x60, 0x60), (0x7b, 0x7e), (0xa1, 0xa7),
    (0xa9, 0xa9), (0xab, 0xac), (0xae, 0xae), (0xb0, 0xb1), (0xb6, 0xb6), (0xbb, 0xbb),
    (0xbf, 0xbf), (0xd7, 0xd7), (0xf7, 0xf7), (0x2010, 0x2027), (0x2030, 0x203e), (0x2041, 0x2053),
    (0x2055, 0x205e), (0x2190, 0x245f), (0x2500, 0x2775), (0x2794, 0x2bff), (0x2e00, 0x2e7f),
    (0x3001, 0x3003), (0x3008, 0x3020), (0x3030, 0x3030), (0xfd3e, 0xfd3f), (0xfe45, 0xfe46)]

def patternBlank : RangeTable where
  ranges := [(0x9, 0xd), (0x20, 0x20), (0x85, 0x85), (0x200e, 0x200f), (0x2028, 0x2029)]

/-- Characters of names whose compatibility forms are no parts of names. -/
def composedIdContinue : RangeTable where
  ranges := [(0x37a, 0x37a), (0x309b, 0x309c), (0xfc5e, 0xfc63), (0xfdfa, 0xfdfb)]
  alternating := [(0xfe70, 0xfe7e)]

def composedIdStart : RangeTable where
  ranges := [(0xe33, 0xe33), (0xeb3, 0xeb3), (0xff9e, 0xff9f)]

end TopDown.Unicode
