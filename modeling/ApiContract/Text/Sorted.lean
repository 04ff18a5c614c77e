set_option autoImplicit false

namespace ApiContract.Text

def sortedDistinct (texts : List String) : List String :=
  (texts.mergeSort (· ≤ ·)).eraseDups

end ApiContract.Text
