/-!
# `Mutex::Config`

The mutex attributes a caller asks for, with the setters of `Mutex.cpp`.  The constants have their Linux
values.
-/

set_option autoImplicit false

namespace AxzlCore

def PTHREAD_MUTEX_NORMAL : Int := 0
def PTHREAD_MUTEX_RECURSIVE : Int := 1
def PTHREAD_MUTEX_ERRORCHECK : Int := 2

def PTHREAD_PROCESS_PRIVATE : Int := 0
def PTHREAD_PROCESS_SHARED : Int := 1

def PTHREAD_MUTEX_STALLED : Int := 0
def PTHREAD_MUTEX_ROBUST : Int := 1

def PTHREAD_PRIO_NONE : Int := 0
def PTHREAD_PRIO_INHERIT : Int := 1
def PTHREAD_PRIO_PROTECT : Int := 2

namespace Mutex

/-- `Mutex::Config`. -/
structure Config where
  mType : Int := PTHREAD_MUTEX_NORMAL
  mShare : Int := PTHREAD_PROCESS_PRIVATE
  mSharedMemDestroy : Bool := false
  mRobust : Int := PTHREAD_MUTEX_STALLED
  mProto : Int := PTHREAD_PRIO_NONE
  mPrioCeiling : Int := -1
  deriving DecidableEq, Repr

namespace Config

def setRecursive (cfg : Config) : Config := { cfg with mType := PTHREAD_MUTEX_RECURSIVE }

def setSharedMem (cfg : Config) : Config :=
  { cfg with mShare := PTHREAD_PROCESS_SHARED, mRobust := PTHREAD_MUTEX_ROBUST }

def setSharedMemDestroy (cfg : Config) : Config :=
  { cfg with
    mShare := PTHREAD_PROCESS_SHARED
    mRobust := PTHREAD_MUTEX_ROBUST
    mSharedMemDestroy := true }

def setRobust (cfg : Config) : Config := { cfg with mRobust := PTHREAD_MUTEX_ROBUST }

def setPrioInherit (cfg : Config) : Config := { cfg with mProto := PTHREAD_PRIO_INHERIT }

def setErrorCheck (cfg : Config) : Config := { cfg with mType := PTHREAD_MUTEX_ERRORCHECK }

end Config

end Mutex

end AxzlCore
