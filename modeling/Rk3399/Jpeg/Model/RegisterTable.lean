import Rk3399.Common.BitField
/-!
# The specification table

`hwDecRegSpec` of `reg.cpp`, with the whole of `6731table.h` and the entries
behind it, in the order of the field ids `HWIF_…`, and the two functions that
read and write a register image by field id.
-/

namespace Rk3399

namespace Jpeg

/-- The entries of `6731table.h`: register, width and position. -/
def table6731 : List BitField :=
  [⟨0, 8, 16⟩, ⟨0, 8, 8⟩, ⟨0, 1, 5⟩, ⟨0, 5, 0⟩, ⟨1, 10, 20⟩, ⟨1, 10, 10⟩, ⟨1, 10, 0⟩,
   ⟨2, 10, 20⟩, ⟨2, 10, 10⟩, ⟨2, 10, 0⟩, ⟨3, 8, 0⟩, ⟨4, 2, 22⟩, ⟨4, 2, 20⟩, ⟨4, 18, 0⟩,
   ⟨5, 18, 0⟩, ⟨6, 16, 16⟩, ⟨6, 16, 0⟩, ⟨7, 11, 16⟩, ⟨7, 11, 0⟩, ⟨8, 11, 16⟩, ⟨8, 11, 0⟩,
   ⟨9, 32, 0⟩, ⟨10, 32, 0⟩, ⟨11, 32, 0⟩, ⟨12, 32, 0⟩, ⟨13, 32, 0⟩, ⟨14, 1, 29⟩, ⟨14, 1, 28⟩,
   ⟨14, 3, 24⟩, ⟨14, 8, 16⟩, ⟨14, 3, 9⟩, ⟨14, 9, 0⟩, ⟨15, 5, 8⟩, ⟨15, 1, 5⟩, ⟨15, 5, 0⟩,
   ⟨16, 5, 16⟩, ⟨16, 5, 8⟩, ⟨16, 5, 0⟩, ⟨18, 32, 0⟩, ⟨19, 32, 0⟩, ⟨20, 32, 0⟩, ⟨21, 32, 0⟩,
   ⟨22, 32, 0⟩, ⟨23, 32, 0⟩, ⟨24, 32, 0⟩, ⟨26, 11, 12⟩, ⟨26, 11, 0⟩, ⟨27, 11, 12⟩, ⟨27, 11, 0⟩,
   ⟨28, 11, 11⟩, ⟨28, 11, 0⟩, ⟨29, 11, 11⟩, ⟨29, 11, 0⟩, ⟨30, 15, 16⟩, ⟨30, 14, 0⟩, ⟨31, 8, 8⟩,
   ⟨31, 8, 0⟩, ⟨32, 10, 16⟩, ⟨32, 10, 0⟩, ⟨34, 3, 29⟩, ⟨34, 8, 21⟩, ⟨34, 9, 12⟩, ⟨34, 3, 9⟩,
   ⟨34, 9, 0⟩, ⟨35, 11, 16⟩, ⟨35, 11, 0⟩, ⟨36, 2, 4⟩, ⟨36, 2, 2⟩, ⟨36, 2, 0⟩, ⟨37, 3, 24⟩,
   ⟨37, 1, 19⟩, ⟨37, 1, 18⟩, ⟨37, 1, 17⟩, ⟨37, 1, 16⟩, ⟨37, 1, 11⟩, ⟨37, 1, 10⟩, ⟨37, 1, 9⟩,
   ⟨37, 1, 8⟩, ⟨37, 1, 4⟩, ⟨37, 1, 3⟩, ⟨37, 1, 2⟩, ⟨37, 1, 1⟩, ⟨37, 1, 0⟩, ⟨38, 3, 16⟩,
   ⟨38, 3, 11⟩, ⟨38, 3, 8⟩, ⟨38, 3, 0⟩, ⟨39, 12, 0⟩, ⟨40, 1, 3⟩, ⟨40, 1, 2⟩, ⟨40, 1, 1⟩,
   ⟨40, 1, 0⟩, ⟨41, 1, 28⟩, ⟨41, 1, 27⟩, ⟨41, 1, 26⟩, ⟨41, 1, 25⟩, ⟨41, 1, 24⟩, ⟨41, 1, 23⟩,
   ⟨41, 1, 22⟩, ⟨41, 1, 21⟩, ⟨41, 1, 20⟩, ⟨41, 1, 16⟩, ⟨41, 1, 9⟩, ⟨41, 1, 8⟩, ⟨41, 1, 4⟩,
   ⟨41, 1, 3⟩, ⟨41, 1, 2⟩, ⟨41, 1, 1⟩, ⟨41, 1, 0⟩, ⟨50, 5, 25⟩, ⟨50, 12, 13⟩, ⟨50, 1, 12⟩,
   ⟨50, 1, 11⟩, ⟨50, 1, 10⟩, ⟨50, 1, 9⟩, ⟨50, 1, 8⟩, ⟨50, 1, 7⟩, ⟨50, 6, 1⟩, ⟨50, 1, 0⟩,
   ⟨51, 6, 25⟩, ⟨51, 1, 24⟩, ⟨51, 24, 0⟩, ⟨52, 14, 17⟩, ⟨52, 9, 8⟩, ⟨52, 8, 0⟩, ⟨53, 4, 0⟩,
   ⟨54, 1, 5⟩, ⟨54, 1, 4⟩, ⟨54, 1, 3⟩, ⟨54, 1, 2⟩, ⟨54, 1, 1⟩, ⟨54, 1, 0⟩, ⟨55, 1, 13⟩,
   ⟨55, 1, 12⟩, ⟨55, 1, 10⟩, ⟨55, 1, 9⟩, ⟨55, 1, 8⟩, ⟨55, 1, 6⟩, ⟨55, 1, 5⟩, ⟨55, 1, 4⟩,
   ⟨55, 1, 1⟩, ⟨55, 1, 0⟩, ⟨56, 1, 22⟩, ⟨56, 5, 16⟩, ⟨56, 8, 8⟩, ⟨56, 8, 0⟩, ⟨57, 1, 31⟩,
   ⟨57, 1, 29⟩, ⟨57, 1, 28⟩, ⟨57, 1, 27⟩, ⟨57, 1, 26⟩, ⟨57, 1, 25⟩, ⟨57, 1, 22⟩, ⟨57, 1, 21⟩,
   ⟨57, 1, 20⟩, ⟨57, 1, 19⟩, ⟨57, 1, 18⟩, ⟨57, 1, 17⟩, ⟨57, 1, 16⟩, ⟨57, 1, 15⟩, ⟨57, 1, 14⟩,
   ⟨57, 1, 13⟩, ⟨57, 1, 12⟩, ⟨57, 1, 11⟩, ⟨57, 1, 10⟩, ⟨57, 1, 9⟩, ⟨57, 1, 8⟩, ⟨57, 1, 7⟩,
   ⟨57, 1, 6⟩, ⟨57, 1, 5⟩, ⟨57, 1, 4⟩, ⟨57, 1, 2⟩, ⟨57, 1, 1⟩, ⟨57, 1, 0⟩, ⟨59, 10, 22⟩,
   ⟨59, 10, 12⟩, ⟨59, 10, 2⟩, ⟨60, 32, 0⟩, ⟨61, 32, 0⟩, ⟨62, 32, 0⟩, ⟨63, 32, 0⟩, ⟨64, 32, 0⟩,
   ⟨65, 1, 31⟩, ⟨65, 12, 19⟩, ⟨65, 5, 14⟩, ⟨65, 1, 13⟩, ⟨65, 1, 12⟩, ⟨65, 9, 0⟩, ⟨68, 16, 16⟩,
   ⟨68, 16, 0⟩, ⟨69, 16, 16⟩, ⟨69, 16, 0⟩, ⟨70, 22, 0⟩, ⟨120, 9, 23⟩, ⟨120, 4, 19⟩, ⟨120, 8, 11⟩,
   ⟨120, 4, 7⟩, ⟨120, 1, 6⟩, ⟨120, 1, 5⟩, ⟨120, 3, 3⟩, ⟨120, 3, 0⟩, ⟨120, 1, 0⟩, ⟨120, 5, 0⟩,
   ⟨121, 1, 30⟩, ⟨121, 1, 31⟩, ⟨121, 1, 30⟩, ⟨121, 1, 29⟩, ⟨121, 5, 24⟩, ⟨121, 4, 20⟩,
   ⟨121, 1, 19⟩, ⟨121, 5, 14⟩, ⟨121, 1, 12⟩, ⟨121, 1, 11⟩, ⟨121, 1, 10⟩, ⟨121, 2, 8⟩,
   ⟨121, 1, 7⟩, ⟨121, 1, 6⟩, ⟨121, 1, 5⟩, ⟨121, 1, 26⟩, ⟨121, 1, 25⟩, ⟨121, 1, 24⟩, ⟨121, 4, 20⟩,
   ⟨121, 4, 16⟩, ⟨121, 8, 8⟩, ⟨121, 8, 0⟩, ⟨121, 6, 26⟩, ⟨121, 6, 20⟩, ⟨121, 1, 13⟩, ⟨121, 3, 9⟩,
   ⟨121, 3, 6⟩, ⟨121, 1, 5⟩, ⟨122, 6, 26⟩, ⟨122, 1, 25⟩, ⟨122, 1, 24⟩, ⟨122, 1, 0⟩, ⟨122, 3, 16⟩,
   ⟨122, 16, 0⟩, ⟨122, 1, 24⟩, ⟨122, 1, 23⟩, ⟨122, 1, 22⟩, ⟨122, 1, 20⟩, ⟨122, 1, 17⟩,
   ⟨122, 2, 15⟩, ⟨122, 2, 13⟩, ⟨122, 3, 10⟩, ⟨122, 3, 7⟩, ⟨122, 3, 4⟩, ⟨122, 2, 2⟩, ⟨122, 2, 0⟩,
   ⟨122, 1, 24⟩, ⟨122, 1, 4⟩, ⟨122, 2, 2⟩, ⟨122, 1, 1⟩, ⟨122, 1, 0⟩, ⟨122, 2, 11⟩, ⟨122, 3, 8⟩,
   ⟨122, 1, 7⟩, ⟨122, 1, 6⟩, ⟨122, 1, 5⟩, ⟨122, 1, 4⟩, ⟨122, 1, 3⟩, ⟨122, 1, 2⟩, ⟨122, 1, 1⟩,
   ⟨122, 1, 0⟩, ⟨122, 6, 18⟩, ⟨122, 1, 17⟩, ⟨122, 1, 16⟩, ⟨122, 8, 8⟩, ⟨122, 8, 0⟩, ⟨122, 5, 5⟩,
   ⟨122, 5, 0⟩, ⟨123, 8, 24⟩, ⟨123, 5, 19⟩, ⟨123, 5, 14⟩, ⟨123, 4, 14⟩, ⟨123, 1, 13⟩,
   ⟨123, 3, 10⟩, ⟨123, 10, 0⟩, ⟨123, 1, 8⟩, ⟨123, 8, 0⟩, ⟨123, 16, 0⟩, ⟨123, 2, 30⟩,
   ⟨123, 2, 28⟩, ⟨123, 14, 14⟩, ⟨123, 14, 0⟩, ⟨123, 16, 16⟩, ⟨123, 16, 0⟩, ⟨124, 1, 24⟩,
   ⟨124, 8, 16⟩, ⟨124, 16, 0⟩, ⟨124, 24, 0⟩, ⟨124, 32, 0⟩, ⟨124, 13, 0⟩, ⟨124, 4, 24⟩,
   ⟨125, 10, 22⟩, ⟨125, 10, 12⟩, ⟨125, 10, 2⟩, ⟨125, 32, 0⟩, ⟨126, 10, 22⟩, ⟨126, 10, 12⟩,
   ⟨126, 10, 2⟩, ⟨126, 32, 0⟩, ⟨127, 10, 22⟩, ⟨127, 10, 12⟩, ⟨127, 10, 2⟩, ⟨128, 10, 22⟩,
   ⟨128, 10, 12⟩, ⟨128, 2, 10⟩, ⟨128, 2, 8⟩, ⟨128, 2, 6⟩, ⟨128, 2, 4⟩, ⟨128, 2, 2⟩, ⟨128, 2, 0⟩,
   ⟨129, 6, 24⟩, ⟨129, 6, 18⟩, ⟨129, 6, 12⟩, ⟨129, 6, 6⟩, ⟨129, 6, 0⟩, ⟨129, 16, 16⟩,
   ⟨129, 16, 0⟩, ⟨129, 6, 18⟩, ⟨129, 6, 12⟩, ⟨129, 6, 6⟩, ⟨129, 6, 0⟩, ⟨130, 6, 24⟩,
   ⟨130, 6, 18⟩, ⟨130, 6, 12⟩, ⟨130, 16, 16⟩, ⟨130, 16, 0⟩, ⟨130, 5, 27⟩, ⟨130, 5, 22⟩,
   ⟨130, 11, 11⟩, ⟨130, 11, 0⟩, ⟨131, 32, 0⟩, ⟨131, 32, 0⟩, ⟨132, 16, 16⟩, ⟨132, 16, 0⟩,
   ⟨132, 1, 31⟩, ⟨132, 3, 28⟩, ⟨132, 7, 21⟩, ⟨132, 7, 14⟩, ⟨132, 7, 7⟩, ⟨132, 7, 0⟩,
   ⟨133, 6, 24⟩, ⟨133, 6, 18⟩, ⟨133, 6, 12⟩, ⟨133, 6, 6⟩, ⟨133, 6, 0⟩, ⟨133, 16, 16⟩,
   ⟨133, 16, 0⟩, ⟨133, 7, 21⟩, ⟨133, 7, 14⟩, ⟨133, 7, 7⟩, ⟨133, 7, 0⟩, ⟨134, 32, 0⟩,
   ⟨134, 7, 24⟩, ⟨134, 6, 16⟩, ⟨134, 5, 11⟩, ⟨134, 4, 7⟩, ⟨134, 3, 3⟩, ⟨134, 2, 0⟩, ⟨135, 32, 0⟩,
   ⟨135, 8, 24⟩, ⟨135, 8, 16⟩, ⟨135, 8, 8⟩, ⟨135, 8, 0⟩, ⟨136, 32, 0⟩, ⟨136, 16, 16⟩,
   ⟨136, 1, 13⟩, ⟨136, 1, 11⟩, ⟨136, 2, 9⟩, ⟨136, 2, 6⟩, ⟨136, 1, 5⟩, ⟨136, 2, 3⟩, ⟨136, 1, 19⟩,
   ⟨136, 4, 15⟩, ⟨136, 4, 11⟩, ⟨136, 4, 7⟩, ⟨136, 4, 3⟩, ⟨136, 1, 2⟩, ⟨136, 1, 1⟩, ⟨136, 1, 1⟩,
   ⟨136, 1, 0⟩, ⟨136, 8, 24⟩, ⟨136, 8, 16⟩, ⟨136, 8, 8⟩, ⟨136, 8, 0⟩, ⟨136, 1, 0⟩, ⟨137, 32, 0⟩,
   ⟨137, 27, 0⟩, ⟨137, 1, 24⟩, ⟨137, 8, 16⟩, ⟨137, 16, 0⟩, ⟨137, 5, 27⟩, ⟨137, 4, 23⟩,
   ⟨137, 3, 19⟩, ⟨137, 2, 16⟩, ⟨137, 8, 8⟩, ⟨137, 8, 0⟩, ⟨137, 6, 24⟩, ⟨137, 6, 18⟩,
   ⟨137, 6, 12⟩, ⟨137, 6, 6⟩, ⟨137, 6, 0⟩, ⟨137, 1, 0⟩, ⟨138, 27, 0⟩, ⟨138, 1, 24⟩, ⟨138, 8, 16⟩,
   ⟨138, 16, 0⟩, ⟨138, 8, 24⟩, ⟨138, 8, 16⟩, ⟨138, 7, 8⟩, ⟨138, 6, 0⟩, ⟨138, 6, 24⟩,
   ⟨138, 6, 18⟩, ⟨138, 6, 12⟩, ⟨138, 6, 6⟩, ⟨138, 6, 0⟩, ⟨139, 27, 0⟩, ⟨139, 8, 24⟩,
   ⟨139, 8, 16⟩, ⟨139, 8, 8⟩, ⟨139, 8, 0⟩, ⟨139, 6, 24⟩, ⟨139, 6, 18⟩, ⟨139, 6, 12⟩, ⟨139, 6, 6⟩,
   ⟨139, 6, 0⟩, ⟨140, 32, 0⟩, ⟨140, 8, 24⟩, ⟨140, 8, 16⟩, ⟨140, 8, 8⟩, ⟨140, 8, 0⟩, ⟨140, 6, 24⟩,
   ⟨140, 6, 18⟩, ⟨140, 6, 12⟩, ⟨140, 6, 6⟩, ⟨140, 6, 0⟩, ⟨141, 32, 0⟩, ⟨141, 4, 28⟩,
   ⟨141, 4, 24⟩, ⟨141, 4, 20⟩, ⟨141, 4, 16⟩, ⟨141, 4, 12⟩, ⟨141, 4, 8⟩, ⟨141, 3, 4⟩, ⟨141, 2, 0⟩,
   ⟨141, 6, 24⟩, ⟨141, 6, 18⟩, ⟨141, 6, 12⟩, ⟨141, 6, 6⟩, ⟨141, 6, 0⟩, ⟨142, 32, 0⟩,
   ⟨142, 4, 28⟩, ⟨142, 4, 24⟩, ⟨142, 4, 20⟩, ⟨142, 4, 16⟩, ⟨142, 4, 12⟩, ⟨142, 4, 8⟩,
   ⟨142, 4, 4⟩, ⟨142, 4, 0⟩, ⟨142, 6, 24⟩, ⟨142, 6, 18⟩, ⟨142, 6, 12⟩, ⟨142, 6, 6⟩, ⟨142, 6, 0⟩,
   ⟨143, 32, 0⟩, ⟨143, 4, 28⟩, ⟨143, 4, 24⟩, ⟨143, 4, 20⟩, ⟨143, 4, 16⟩, ⟨143, 4, 12⟩,
   ⟨143, 4, 8⟩, ⟨143, 3, 4⟩, ⟨143, 2, 0⟩, ⟨143, 6, 24⟩, ⟨143, 6, 18⟩, ⟨143, 6, 12⟩, ⟨143, 6, 6⟩,
   ⟨143, 6, 0⟩, ⟨144, 32, 0⟩, ⟨144, 4, 28⟩, ⟨144, 4, 24⟩, ⟨144, 4, 20⟩, ⟨144, 4, 16⟩,
   ⟨144, 4, 12⟩, ⟨144, 4, 8⟩, ⟨144, 4, 4⟩, ⟨144, 4, 0⟩, ⟨144, 6, 24⟩, ⟨144, 6, 18⟩, ⟨144, 6, 12⟩,
   ⟨144, 6, 6⟩, ⟨144, 6, 0⟩, ⟨145, 32, 0⟩, ⟨145, 4, 28⟩, ⟨145, 4, 24⟩, ⟨145, 4, 20⟩,
   ⟨145, 4, 16⟩, ⟨145, 4, 12⟩, ⟨145, 4, 8⟩, ⟨145, 3, 4⟩, ⟨145, 2, 0⟩, ⟨145, 32, 0⟩, ⟨146, 32, 0⟩,
   ⟨146, 32, 0⟩, ⟨146, 16, 16⟩, ⟨146, 16, 0⟩, ⟨146, 4, 28⟩, ⟨146, 4, 24⟩, ⟨146, 4, 20⟩,
   ⟨146, 4, 16⟩, ⟨146, 4, 12⟩, ⟨146, 4, 8⟩, ⟨146, 4, 4⟩, ⟨146, 4, 0⟩, ⟨146, 6, 24⟩, ⟨146, 6, 18⟩,
   ⟨146, 6, 12⟩, ⟨146, 6, 6⟩, ⟨146, 6, 0⟩, ⟨147, 32, 0⟩, ⟨147, 32, 0⟩, ⟨147, 16, 16⟩,
   ⟨147, 16, 0⟩, ⟨147, 6, 24⟩, ⟨147, 6, 18⟩, ⟨147, 6, 12⟩, ⟨147, 6, 6⟩, ⟨147, 6, 0⟩,
   ⟨148, 32, 0⟩, ⟨148, 8, 0⟩, ⟨149, 32, 0⟩, ⟨149, 1, 24⟩, ⟨149, 8, 16⟩, ⟨149, 16, 0⟩,
   ⟨149, 32, 0⟩, ⟨149, 1, 1⟩, ⟨149, 1, 0⟩, ⟨150, 32, 0⟩, ⟨150, 1, 24⟩, ⟨150, 8, 16⟩,
   ⟨150, 16, 0⟩, ⟨150, 6, 24⟩, ⟨150, 6, 18⟩, ⟨150, 6, 12⟩, ⟨150, 6, 6⟩, ⟨150, 6, 0⟩,
   ⟨151, 5, 27⟩, ⟨151, 5, 22⟩, ⟨151, 11, 11⟩, ⟨151, 11, 0⟩, ⟨152, 5, 27⟩, ⟨152, 11, 11⟩,
   ⟨152, 11, 0⟩, ⟨153, 10, 22⟩, ⟨153, 10, 12⟩, ⟨153, 10, 2⟩, ⟨154, 10, 22⟩, ⟨154, 10, 12⟩,
   ⟨154, 10, 2⟩, ⟨155, 10, 22⟩, ⟨155, 10, 12⟩, ⟨155, 10, 2⟩, ⟨156, 10, 22⟩, ⟨156, 10, 12⟩,
   ⟨156, 10, 2⟩, ⟨157, 10, 22⟩, ⟨157, 10, 12⟩, ⟨157, 10, 2⟩, ⟨158, 10, 22⟩, ⟨158, 10, 12⟩,
   ⟨158, 10, 2⟩]

/-- `hwDecRegSpec`: behind the included entries `HWIF_DEC_IRQ_STAT`, `HWIF_PP_IRQ_STAT` and a
dummy. -/
def hwDecRegSpec : List BitField := table6731 ++ [⟨55, 10, 4⟩, ⟨40, 2, 2⟩, ⟨0, 0, 0⟩]

/-- The ids of the fields of the table. -/
abbrev FieldId := Fin hwDecRegSpec.length

/-- `regMask`. -/
def regMask : List (BitVec 32) :=
  [0x00000000, 0x00000001, 0x00000003, 0x00000007, 0x0000000F, 0x0000001F, 0x0000003F,
   0x0000007F, 0x000000FF, 0x000001FF, 0x000003FF, 0x000007FF, 0x00000FFF, 0x00001FFF,
   0x00003FFF, 0x00007FFF, 0x0000FFFF, 0x0001FFFF, 0x0003FFFF, 0x0007FFFF, 0x000FFFFF,
   0x001FFFFF, 0x003FFFFF, 0x007FFFFF, 0x00FFFFFF, 0x01FFFFFF, 0x03FFFFFF, 0x07FFFFFF,
   0x0FFFFFFF, 0x1FFFFFFF, 0x3FFFFFFF, 0x7FFFFFFF, 0xFFFFFFFF]

/-- `SetRegisterFile`. -/
def setRegisterFile (id : FieldId) (value : BitVec 32) (regBase : WordFile 32) : WordFile 32 :=
  let spec := hwDecRegSpec.get id
  let tmp := regBase spec.reg
  let tmp := tmp &&& ~~~(regMask.getD spec.bits 0 <<< spec.pos)
  let tmp := tmp ||| ((value &&& regMask.getD spec.bits 0) <<< spec.pos)
  Function.update regBase spec.reg tmp

/-- `GetRegisterFile`. -/
def getRegisterFile (id : FieldId) (regBase : WordFile 32) : BitVec 32 :=
  let spec := hwDecRegSpec.get id
  let tmp := regBase spec.reg
  let tmp := tmp >>> spec.pos
  tmp &&& regMask.getD spec.bits 0

end Jpeg

end Rk3399
