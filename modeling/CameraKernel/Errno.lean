import Mathlib

/-! Error numbers of the kernel, returned negated as the drivers do. -/
namespace CameraKernel.Errno

def EPERM : ℤ := 1
def ENOENT : ℤ := 2
def EIO : ℤ := 5
def ENXIO : ℤ := 6
def EAGAIN : ℤ := 11
def ENOMEM : ℤ := 12
def EFAULT : ℤ := 14
def EBUSY : ℤ := 16
def ENODEV : ℤ := 19
def EINVAL : ℤ := 22
def ENOSPC : ℤ := 28
def EBADSLT : ℤ := 57
def ENOSR : ℤ := 63
def EPROTO : ℤ := 71
def ETIMEDOUT : ℤ := 110
def EALREADY : ℤ := 114

end CameraKernel.Errno
