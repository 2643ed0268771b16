/-! The sizes of words: how many numbers have so many bits. -/

set_option autoImplicit false

namespace OralExam.Word

abbrev size31 : Nat := 0x80000000

abbrev size32 : Nat := 0x100000000

abbrev size63 : Nat := 0x8000000000000000

abbrev size64 : Nat := 0x10000000000000000

end OralExam.Word
