import Inkwell.Slot
set_option autoImplicit false

/-! Where each part of the state of programs lies. -/

namespace Inkwell.Layout

def programs : Word := Slot.within 0 [8]

def params : Word := Slot.within programs [0]
def records : Word := Slot.within programs [1]
def moduleHashes : Word := Slot.within programs [2]
def pricer : Word := Slot.within programs [3]
def managers : Word := Slot.within programs [4]
def lifetimes : Word := Slot.within programs [5]
def fees : Word := Slot.within programs [6]

def feeAccount : Word := Slot.ofKey 0 3

def paramsWord : Word := Slot.ofKey params 0
def pageRamp : Word := Slot.ofKey params 1

def demand : Word := Slot.ofKey pricer 0
def bytesPerSecond : Word := Slot.ofKey pricer 1
def lastUpdate : Word := Slot.ofKey pricer 2
def minPrice : Word := Slot.ofKey pricer 3
def inertia : Word := Slot.ofKey pricer 4

def recordData (codeHash : Word) : Word := Slot.ofKey records codeHash
def recordLifetime (codeHash : Word) : Word := Slot.ofKey lifetimes codeHash
def recordFee (codeHash : Word) : Word := Slot.ofKey fees codeHash
def moduleHash (codeHash : Word) : Word := Slot.ofKey moduleHashes codeHash

end Inkwell.Layout
