import TopDown.Unicode.RangeTable

namespace TopDown.Unicode.Category

def spaceSeparatorTable : RangeTable where
  ranges :=
    [(0x20, 0x20), (0xa0, 0xa0), (0x1680, 0x1680), (0x2000, 0x200a), (0x202f, 0x202f),
    (0x205f, 0x205f), (0x3000, 0x3000)]

def lineSeparatorTable : RangeTable where
  ranges :=
    [(0x2028, 0x2028)]

def paragraphSeparatorTable : RangeTable where
  ranges :=
    [(0x2029, 0x2029)]

end TopDown.Unicode.Category
