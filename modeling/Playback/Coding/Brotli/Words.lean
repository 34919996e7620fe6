/-!
# The word list

The words of all lengths one after the other, deflated and in base64.
-/

namespace Playback.Brotli

/-- The pieces of the packed word list. -/
def packedWords : List String := [
  "eNps/WmXFFeWLYrW6Y/iXm7ft5aep1JQRUSAlF0RQdRASEqRpYYjyMx7qk49DXM383ADczdPM/cIXCmNQSN6SUipXiAh",
  "JBAIiU40omeMyzlfa0ifDhrvS977iIY37vsN7805197mFrovlUA05mbb9l577dXMNVcvacdRNttJk2acxs1ePWxsbWRR",
  "HIW9sGhls1knHRRJL24kvUHWjTtb+kUvTbbGzTyOZ7N8ay/e1hvEYZ7NxHk9iwYpvmhmebueZVu7aThIk5k4TTpxK067",
  "rawdF0kUt7Ocn43SrDPda8XtmSSebSadqBtO47mDotlP01YcRr04b8dhoxXmcdjMs3Yv78ftMN8a1tO43806rWS6hXHG",
  "adiJOvFsEc/EnQ7G0wiLuJ71Wt2s6PWLOGqHUdzCNa0Yz22FvU7Yjp9OOlvraTZdJC/GdVyP8eG6rbh/0sFn8odXBH/Z",
  "ytIo7kTFbNJrPYv7YxjRLO5RJNOdHq5thTPxNO5VxHGnEaZpN+y1ZmP8m/aLdtzpN5O03Q3z3pYs6fRaSZEmRW86yzDW",
  "OJrFe87GBX5XL9p49zAtMgwny5NGC88v0rDo9eIQr9seNPGZrUlnejZJ0xg/nw3zqI7PNpM83og529rJZkPccKzbmW5j",
  "/nt42TQLo2nMfRGnzU7Wi9v9RqsZcy46gzxrbE0aWSfrNOIU69TCmkRJHD2F9cn7adzCvIVbwm1Jp5k10n49DWeLNC6K",
  "Vpg2C64h7vVi1olXr1r15/inaGCBNkOO8rAR19M+1r+fz8bx1ia+b0FopjFPWESsN8beijuYk61b426vGxa4adLNs6z9",
  "1OZnnoa8dDYPupBH3BSf2RrH3WYaTkN+tmJ2oibep4fx5ljzHmR2S7/d7WG2ItwPY8DvIcGQRYx+sBVzhXnoNbEuYb+X",
  "QTbysQZkKEy3Qq67M5iTCPdvQ9axor1eP+/UM/yBnGAnpHlWxP08XV5g4vMsjfFRiGKvwHRjbWOsYxqNbelOY2u0Z8J8",
  "gM/0IMudAgIT5Vn3t5DpRtYdrB5bVZscD6eKHiYixWokeBjmp4t9NjadNDEHvUZR/PV0Hg7whM5PpnsTOdYDY+yleM8i",
  "THC7MMIzAqxfuiVrdSAjW7tZjncreg//Zt1oBLmcHK9PdbMsr/O9MYe/Gds0Ngu5aWO/PtLdNrEBa5mHna2zuPds2IEM",
  "pRSm6O9W/f1EN+yns5jvop/H/2r5wz+eDZNeG2sD2Sums7iYxp7A0kx3MZYfjY4GKeSn30l6WDfeZyvksD0L/bGtndYK",
  "7mm84iOrutswdRj7LN43S5tZB/dM0iJs4re4c9gtGtADOe7dTLPZelgfFN2wU2Bf/BTj/Tn+YOsUkP0e9l06m2xNoBN6",
  "RQ+Ckyd4/enxFHtwNg639rAWT0LnYN9jTjoF1nArlnuQ9zvFln46gCbbuhr3m87CdBoqoMDz4mg6TqK1tSLuFT/D78a2",
  "FH/9U4w5aQbLiyzDOkJPQA57/Xr8Ykxp6GAccQSZ7mE3Z1g6iFfeXv3L7rYGdEAL817HOF6ELM9kmOSwGOTYs5DJtIsx",
  "JpivBuT/UTxrC9a+F04X9aRXQLZSbL7eViiwDmR3EhM8jUn79abnno36vcGz1C9hGg+yPua9hylKOlvCF19sUDcN4qKZ",
  "FK3Z2dmxPClwz3rRzeOZ1XgPfB8/ghd7DPsxwjgeXbVqZR1rDinA2PIOdElUz7aNNcMkTzEezBfvnW/p453jRitpLv9R",
  "F3IWzyTpv1peg0zk7RSfjSAPXejnlatWreJbRnk42+pjU3SzXrPfierYR608bkKzpFvjQdHDPVqQd+x96PU4XQ1hLPpJ",
  "Dx9Nn9+0qUaVjzUZ/OqJzTXMWRwmkDkOKYkKTO1EJ5wZTGND9JJu8eO/+qu/wjigG6MB9nuxYiJ4udvq/jV0d4p9nc7i",
  "gHmxtWbuL8aXjQRQTtBX6djIyLpf4D7dftHCSdLD1Ew0IAN/MT453sIJ9wvMEXRML4cOC37ykwCnSYr1xOkCqcIg2gl0",
  "1Nak28P644zC+ZDG05CZLhbjp5jTZSPLRhqUb+iEMQxmsp5Pxdigbaz1dD+Bnk6xUAUejU0SUiNl7fGkPf2TH//ykbSP",
  "sxb3xVROQKgG05C3Vq9NLZFGeX/6yeefeKID/dTBHP41hDWlFGLuZ3gGYG9h/gLIf57H6aCOM6iArET9rXEnLMJG2I1n",
  "IRvT/bS5+ZFH17Qga5D73jR0CpQ/zr5+Dn01WI33f/jhFRMrJmpT7QJKK8H+SfKogH6px9g50OObV/9yDZa+4AbA+6c/",
  "xyQ2IQ//5/YPino2KKBDxnCL2sbnNm2uYzxbsXYrJl5+GYfXAPMWLf/N36z4fT+MsDbzozhwR/E/KP0uPrMMdkdv8+q/",
  "WjOTNKD9okEU13tTeDHosrQTc5zZ7ObVP18TQbfFM2G6efUv1qSYf8gtxDFMu9g/nWwmxH4opuNOHPyf298usiZ0Uzvu",
  "JdLjxWTrUejGft6EHdDFWTLZy6dw5iYrXvrRcvwbY1yLdcgT9Eu+atWKiXaSbg1GR6eSPOvAzoki7K1ZrFORJWm33yvG",
  "txTjsA0Gmx95ZM2GTY89u/mRVWvCKGxjrvCsR6a2QAk+vDJ4GEdsb/Mjq9cEeB+cs1D1SdiGbpkc704VWT99esOzT2A/",
  "wl7JMQc/XTPZWj31S8wtVMDkX0FON6/66Zo2bK01P/3530IG4qTTaP0b2FwQL475/sMrVkCuc6zJdIwzFaLVgd3TidY8",
  "+ou/fSFrvvDw36+YgGytxLULPejEAe2GbDatYy+s+dnP//bX4Uz4KJ438tLLI3++/tE/X/PoT/92S9xsPvG/bdwAXdqa",
  "SXDcQbQL2Be4x4Pf93mGYj9AfnBW9TB3Y3XIYQR5bcEWgb6AjdTprXn053/71ObNG0cfWbW6meGkxj2eePbxYBsUzpqf",
  "/fRvH3vu8X8T4R4TIy+PxNsSXP+zv8X5VkB2eg+/vGICtkgPW30ihDX38suT43+X/P3Y0zh/trb/969n8ZweZC6MogLa",
  "IsV23DYx8tDLUFlZB2s5hoNh1aqfrcBcDLZA1RcQKuxY6NmsiblYETyyahVkHHsYkwHzD3Yq9kQ+aGBdewNIVgybIsk6",
  "YzjMGjjnpvFcnIljP8M8bWyNPQ59AFNP9lUH+3orZAUnTdjBebgNctKA3I9EOHMbadJdAeXzC3wO87Dq8d8+Xvzi76cm",
  "e9iXtICTv/zLFbNYNxgZWReHR9bt4chP4yfX/esCctIZfeTnm1Pqc8j6b55/Oqj3U9jl2daJl5eNPPXEusex51aE9Tr0",
  "ddhZvvqvfgn7rEWlMDmeQLagS/q0o2EnJN34pdGRH61a9ciKDgz9v1v99xN/9/cTI09n0wHOld6ykYcewnk5jTO1XYd+",
  "WvGHZSOrKBNYh63Zmv8Leg1zPbWsWDM+HuCD0Iq0b6eXr/jDCC4NcG4+jNfrRv0Q51/YG/v1xl+twML+vp/18O8I9jg0",
  "5MvLIAo/xZ+f4c/P8ecX+PNL/PmrR1bpv9X48wj+PIo/uO4RXPcIrnsE1z2C6x7BdY/iukdx3aO47lFc9yiuexTXPYrr",
  "HuX98LPV+N1qXLMa167CZ1bhs6vwu1W4ZhWuXYXP4AaYDPzBdfgLgoY/v8SfX+DPz/HnZ/jzU/x5FH8ewZ/V+IPrfonr",
  "fonrfonrfonrfonrfonrfonrfonrfonrfonrfoHrfoHrfoHrfoHrfoHrfoHrfoHrfoHrfoHrfoHrfo7rfo7rfo7rfo7r",
  "fo7rfo7rfo7rfo7rfo7rfo7rfobrfobrfobrfobrfobrfobrfobrfobrfobrfoY3XsW3/unqR/8KxxJeHv+DzZq17x6D",
  "N9GLaXR1Ycf0sihrwS5vQGGFdy9k9QQK+u6ZMCzunplJIpwbBS2uDHopo0eCr8MG1jZKtmTw3TLYqR2cxfQooE2xY9Pp",
  "7Pf9u1/Qqu3gnjgjYApg5+AMqodb+DyKcxZO98NuHyZmJ8OWhO0NHZb2Ex51cHIGGfyJEMox7yZ4fh3PTHlBmkVJhn2R",
  "c1zJt998e/7bW/hz+9ub323/9vx327/b9d1O/ezyt3fw09v47iquuoWvL+m7299ewe9u4ydXv9v97Ue49jL+u/DdQdzh",
  "4Ld//O7gdzvw26/x9df49yPe49sL3x7F3zdwJ3zq20++PY6fX/72CK7dies+1k9v4v7nv30Pf97Gn4++24WfX8DzLn/7",
  "Pp5/+dtr397Cz27iv0/xuV3fXvl+x/cH7n32/Z7vd987iT/Xvt/1/Sv4ft+9C/fO4Tcn8fv93+/9ft/3r3y/G3924Sf8",
  "eu+9U/cu4utX7p3AZ/fqHge+34nP7MXPvsSdTvErXXsAX7+Ca/nvrnuXdNfduH7393vuncbPDuCaPffO6BO78ZtLePol",
  "2O5FDwsfZym86R7ccvjBWB1YdfT6aXLUaR/m/G3B05+ePcwfyBB8i6TRTOA506jMu3RzcUTDyoO3BYsMbjpUQh7B/iti",
  "GLX9LiMGBcMFBcSRThzc/Vl8QZctNwUMw5CeO/zsLjQ6bB88N85zOMYdnL1hPev3GBeAYdlL6Q2mcvt78EmgzeCEwjrM",
  "pxVeKOSbU3poNjfgljb6RQNOT06nL63TjaGJBh9EUhYyKgG/PaS/08azBwlPVkYLCpjfHfqhvD0eD2sD5wzMIdgHOOR/",
  "AoNxAu8BFzvLG3GXBzQdaZxo00knbOITOEuTHmzJfsxoBn4BuwZHZ7ytl8F0pYWMO+On+GynByO+KOr9JO3J9cUhEMP6",
  "6kcDbMaI7nUnKuhq4l9MXQuuMEMuBbYmjjUcx7gYpg9DARHjFB3M2kwMK7doNZNtcK8xoE4G6y9n5AW2KewsnJFhmsPB",
  "zunRFr/v43zGlHTjVr8ddnBKM3SRKL6A0xmnfVTHjmzAtWlQtWDGYaO3UvhFHTk/s1A1MQM6BaMpRcRbQ0XkcR2vD2++",
  "32vBTcJn8bgCk91rzTI8w5eOIHoN2mI9Tme/3YM/QaWS9xhMGayHZthKDy5nbAkLCk81DQcxLY98wGcM+nLTOU0NTGwP",
  "i5cHMGopV91+l+5xEXa76WAD17cOu2q634VyZJyE0oS7YE4LuuMFFiiHgsLSUhFuZaiFbhoNbpgGRR8f64b6LG5P2eow",
  "6tKh0DB2FEebKawcePEr7gCotg7sA0ZzMkxsM4T8Mq40CPsQQq5WgddPY8YqxvmCEaNZRQRzdwCvLKWzFPa29OG+9lqM",
  "UcCvLDocdJ1hgkbGeAKDcXzBmBGRojFo8G8YxwywFNSsW2e5zLDn4k43iRs065O0iReN6VZy5+GcT9pwWUNKRwInkGYP",
  "LocoM2QXU3qw/fqNVp3znGcDWEXF1hiLBysG70exwAYLOBMw1nstrSitq0HWbEIkGlk35mTCxcIWh/XAlbaoHNRCzngI",
  "zo+8l9OaCuGL41WzDhZUSgYuBs3dTVQZT1PqIKvdQdZowNWMm701sNuLFqS4xzmAS8mNw7hb0c9h7jT5SAowFppz1e9l",
  "E1idXjxG/6vNTQJnL0z/DSWnwMPwqrBuMcWz+CmeS7e3Ay2YMDjRaD3P+zEUCQ2ZN1o0fmJG+gqGGYso69fhSQ06jR52",
  "E73wbBZrGTcH3AbwXuAW0y+FJMxgQbF3Ga0s1nNfbqLmouE92KJII/yoFHZeI15FD3wT1WYX+zNl3AVGLjWCNDUceCpz",
  "C4IWjPQUDMkVIYMTWLwipuVKPd7RoLEAXUwhvu0xxFowxsbfDrjB4JNj8QvGeqm4c+7uzjQc6EenuGTTNLrH233oXy5y",
  "tJGbE9d1ol4G7QMzIomWMwBaZ0SEET/epQknLaF4p6kivoOmi6/BacK1wfg4XLAwooM2Pej2nqCWp7c68QSFlbHgWoPe",
  "HbRjp6dQLtyL2hQ3MSz+cIZBDHjCyYtxMQ3Do4fh/nQqzxgYxm8HvMFKnR00aaJGzrMjmYYTPQsNHYUQYExIEU8xIhN3",
  "XvjNpp/8+NG/mqCtu+0FCjUOAgytswWSvyXcNhbSayiwZVoMvQWMHdN4hz7t4DTthDO1KQYBOop6MZoIscBsQN9n+Sae",
  "PbQysYJQCowTF1vCrtRDCrc7gcxhp+Qhjxy8xyNTIXw42F7YjNhFeVgbHR//HUOgBeNQBQPHxUZuYrxlr8Uzr8PgxF8X",
  "GEAPm5ciCOOLGq7H8GsTKxPjKJutTWH+sbHzPnUsDvrf8jx/kpphrBP3uCQjcJ8HwR9GGJFkxLxgWIuigtmOIAO/52T3",
  "csUM61nOwD90B4YLZcu4SI9SGSf5I3SpFM9mTK9Yz42N3Q0NR43OPEHBgBIDoZhrxrzb3C481ahPk0Lh7ahP1RxvC4tm",
  "jt3O8MjKl16So9KtYaxYPIYlahnDC5P1fHyqiffKC8bkorjbawWWAcA2bVDLM9ug4OUEdMx0h2GqYpaj4mgnoFzW1hi+",
  "xpGFN3oGbx6MjY1NjsN07UzX+dJMggSMHE4wrQDxzvMBtAWEPW7yrJiOX2AeZKxN2YAZEuK3WK4uMyhKFEyO9/Iphn8K",
  "Dj4IISFUQHR1U6iwbdglDBq0mKUpeOA2GGsOCijxAqZaR6HhIlgOSWUQPXqBNgRDn4Vsd4rQVmVitBm5zyMGASZmeZzg",
  "3Yp4+YqJWvAYzSN8tL9tC8PxXejElEGeqRUTSXP5KJVsFMJwhHlVxE/StMLbM++yLS4286jEIcGXidtT9TCvTY0VeWNt",
  "j5oBCmxtrUHrsAVZGzzyU6m+Xr+bQC4HtMO62PR4CYiGYtUFdccYFHrM9EGcMj5YjDeKYpwZiAmmKKBQ+s1mPcFNGdkv",
  "GP5btRU7LYQfu2yEUX3YNHE/Xhv84eWJXyoKyJTKH+j/hkw2Nfi+CcSqxfRWkHM/00gtGFmuDcJWlq1gsHwdLVBmqwps",
  "xNVT8IH60wwwy0tfS5+leHkFZpCBzokutQpDigXzC8WqbT9ftYpZg5riuHUeHb0QE9ZOoMpovaXYYJPjDC7jjaCcRrl4",
  "FKkxvMfIQ21ukgD+/l89ue5fT47n2XScNxnWX8898wgDpkzyFIwkTWJj9nqMxRePcCwwwTpbVwQvvRSkjAwym5P+eBVU",
  "WgBxCpi3i2Y541RwE1vCNf+vnUUCqZ5k5D6H6TBg2gP+G81fTFi3x3PmMerOFcGP1gYRbVZGPRhqaeM42hoP2nAvU2bU",
  "xhjGDrq0nbGnOwNGEgtaOLXVnI5ZGuSMYLU3bV73/GbKVpDAju2sDODLM5wwQgN3bCaBMaBQKvRLB/sSpwwTYDSts06X",
  "+5d7ZiQbhd3CrIRSLQVPyoDBtw6jLn8Io6weP8zFTKK1q1fxQJhgui4Ye2SsnTCJVmPYG6YGlmc9ba461GH8CEeKRV7x",
  "l/ziJQaxsf9wEre4xVc/sqoW8IiF6ptaNsIDYm2UwAjgjscvMOHUnSM/bjab2EQwWWjh1Wg+4LDGx1Yw+rxaewF2Vrdj",
  "AWf4Q1yKXUxVNDiJNb60skPFKPbaaERHa+QnaW+CkddizU9/+beTzN2O5n1sNGaeAh6QsNa3ylXoFmuDWm0ChwHOI87a",
  "amYkoP7DDsPoGbXh2mztnz/yZEBtBNe8Hk8m7ekAf2pTK4PmloJfBTXO3zObs+5jzNjVOvFsOngca7K18WIsWzlJaStz",
  "k/xsqhn+vjb1Ymu00Vm9Cqs5urq2YoJW+FpmC3G+9dMBdUnBYNIEZm/yR4xYpAGTHjjslmn1gy30JbjjA67WGHbuspFZ",
  "2iXMfRR9qpuIqY46Ns3WHvcW9lEtYI4W9jOGxiAI9vfvIaP9rJ0UGXwR6NAoVm6HkZGi26cDevdCxqDJ3WO9BBoXVkAv",
  "ZExEZjyzk5DMPvQM4yg5hxbiZm2oVJirbRxZWfj7/t0zjKoUxd2LaRYO+lHYjJl+YDQEhlGPfmaGUfWyghGWQhLMHG0W",
  "MtqR9qeZIhtkTE1aAAQzQgsAclEwpsrxhRjQ3TMFxxLCQOtHCtrQe89g+cYd2ovwmyJuWBp7cX73GMwivnEjybdkhcI2",
  "YU7LCqZFv5u1GEaVGOBpODNgmmc43sOiwzQ+TbOYrxpiB8ZMrSWKA0GVNJKwCdOS6aME5h4mtgtNkdX7eE1a13kIEUv5",
  "bUgrElZO/iLuW6cThyFADPCguxfbGV8y28JvYdfcvd7iJZyDAcz/Rtjub4GNDGsob/Z5kOBB2TT8gzCZhl08w3lhAAsG",
  "Hyafa4npbeM5kC2c11g7hqw6nQwKDAZUA2PG7mEItsDkJAxKtXCS5UUGoxczhVnFZrx7sQPN9WLGwIJiU8UMxxx2swFG",
  "2qGRhQ3Hn2UNbOdc6SP4SBgLlUiDH2NYq2CUpEOh6dw9Rp8vkQ8E3wli1NBwQ/qSKWUD7w4/AMPAbMC6jmkmx12cxDgW",
  "eRt8mlgIhsVg3TKKBhmaThl546MxEe0QKpnesU1gJ4FU/96eUYR0ghpZi0G9mSTcAuULC/ruFzxzKPI5fGLIzZYQ4g15",
  "hvsVpjyR4zSmGwxrLtQawljNirTPdD0WGbdKOW/4BD3snHFCCRJhDA0mOmfwcIwKQhJlM7CZCob9irBdz5i0jXhdEtK2",
  "1V4Iiz68dhjIWzC70P104vB6SSPEZNw9syXjo7BkYaw9RVWAbZDkRT9OOYKsaCpiwwgjl1svyHmE5854FFc1hEeW0SwL",
  "Kbs9ng1pnBB+Uc9ShjAxaxBCGF8c0N0dWrcGcTD4BHwNCAPvyAEd40rjBsxLMfRJDfIFpZObnfsEb8JDKaTBjK8a8rd6",
  "2PC4FTULZG2AecMipW1YlxkNSAVT6VbAQknwWnx96C5INl4CCp+6BPZ8V8FYOWyhlFqRMI3LJaO/AcMcigc/jhm+2ULL",
  "MQ4Zki1+Ql91Isp4SuPGOPBp9PQtqAYZKhicGxQcvo6LOpMyeR7LDG8we93v0vGF6MGxpe7pt3Fs4VMduLrUPDRrIIHw",
  "DLr9Os5LfIp4GdhTBeW8jS2YhwQJMThWYJ/mDbxQriRrrogTvIpYpkRMKE6jpfAE1odBxzyexqiSHnEu2LbwlDhO7N0s",
  "7bc79LRyqEV63AoYTsUJIxcwpKd7rSb0G9zOnCFwTBzsOkgxdC13MV4gVnSs325jBuiZ55zdOOpasGkb3LOoC13XGOgI",
  "6NHL5xaFCW/aBOcuNAm8OdgS05GcSwW6CgUJYUklWOlZuevdGMIYc+NND6Ah+7R1GUhoYnPnxBnhDg1JUtZswgzGNsQA",
  "GUDEEduvtxmGYCxQQdai3yX6BzZaCneJYaJIAV6YZy1mqvu6fwuSOguhwZsqZls8V98SN3oKCxYW7YVYQ7c0WrlwW22M",
  "EALPmF1LMtbhYYtx4h2h7iFqfFfst9/3QwbyetQ5DLAVDEByBfkWwrQwUYXxw62kl425yphchgeF+2Dqn6bOwev0GJTC",
  "3FJtt2nBx9DNMVFDcdTLpqfTWGFoyDWzx5TbpNHAQQopol3VHvAkmw17PXgjSl73mgpyt2RbEt1UmyKmLY4g781+qp08",
  "kK+qiAnXHbIA2WpgONRO0xaHLOJtDcJQGAGY5rpiPC1NRhPHfE8hcYtwF1gvjA2HA84n4jyyfIaSGT+vGeM2h4BxU9K4",
  "4DncwJsURA/A4NZi1AIafwzKxL1pRXi4pyhAkElYZ00aCQOo0LQtRcNocQNuMndr0hHeLqS0rFfwLtMqK54LrRJFafwE",
  "M5BUh7MMYE6HjUFbexyL3Z9uEdsVy9iOGYOfTjocd4iTKeGzcCA0aItDgShXEClORtOe2JeQ48+UT5X8DOQiEg6BY65B",
  "fxN6APu9FcXU1LlkCTuWNkAf6qLXJlZwkCgyqb0WK3RfPCvdEvWpHyyaqNxBQdRXHNGksMASXKEkxc7F7E0z2s78bl17",
  "h6E8orGwdYpfSXcxJkvPiJHVhuaqrigrrNg87EIOsHoWC4PyoJzDpOsN8BaUvS48x96oDaJLfdsm5GeaEUcc8H2oY+h6",
  "4ltg/ODemxp50u1hDAzOU0jp1UDlRQl3KgNhFHu+46iiCJhHzAOkEAohlAwwkxJHDK7E0XrNISaYAbQWgxVhSnwh8YS1",
  "AP4N9AbnBL77Hxi1wQCbybZM6YKnJOdjhMcsb0B5UAJoX8Bcw8unIayu1vPShD29EfMY3Oc96KBI8v+Ydjq8j35voNAw",
  "9dt01tskDRZS08NSk0RDK3G0diLII+5xBfOYv3lGGl6nEGSb4flNOguk5guOII5+0qkX3QkG9YtYjnjAo7oTTTJsGzA/",
  "nihfs7aGzQrbQug+2EozQk/QG1oTbG7FQcSI2rTyUsVjT/xqw7PBM9gSPJcZqG/IH2hJM4dyKTboKVQ8veKJNhY73iRd",
  "iv2O3RDh+0bP0gLYO9jpm7QvxkZGnusoqBNHdFlqUxthhyddBbOKlpAJWDXc4TlpiVxzLyEuOoonbpK2iWIGbRi+TQfB",
  "8nhseqwet4i7yCgneBEIDvMAsVCA+MOsk0K7vYJmod4qKSz9FD1KB/8lmnRRyGhrY8AMEA45YV/h0L9IlB61veRnqh4P",
  "oP1GFf+ndur2dBpGtGc68ZNZxoBASPSnAiIjL1Bl1xSBlR4uilowDh9uTN5YJmSqJCF/bhvRaBwfFhjaLJnRzu00hbJ6",
  "3MKx9EdrYbfL0wybpzal5GJBjOvWgghguWANRmxx2uCdMdp4HQ51WImcNhrBWM+NOmEn6znGMsvDJVeWTnGZOHrpJYaF",
  "+P61qcROMeyxcMCdX5si1gj6JO7A/4Re61OHwIjrKMxfrGZk8CUdP5xD/EjZlBojN3g6hWiCbxLqLAvT1cox8CcQ8pyJ",
  "kiamo7dGgYdAGa+xdToFlFgqCkv3UW9ET1lwn/HA/Debnxz9ZU2px+AxnQJjwe9g3TBRmGSKF8N+6xAblMPa7G35130h",
  "VSifirXAgoKC78EKwj6AZzPNFefWZJQk+ENS5CEmOhzIemngkYwa1qZa0hicDCbzuL+VQiqUT53QNEQKvk7CU9Du5hqO",
  "jhLZCg2V9AZ4GaJF8Pmwr2hYsFrZjKzeY3yadloRKtS1MtjQaTBQEkcD7aAAZwjOFyWOx6jR40gZocELFNaxJ2XRMXAd",
  "R8/oxEyLOEiaG2WzYa23xoMVE8LSyrWelm2m9HLxuGzglwnS/QO2Dy5/DPecHG9KwpXZHGvKHlaOophUpJeJm2BVFz9r",
  "hxA6DEsucA43AL6b7JNI+biCqJmk8zMFoxgUws6iH9AZo0G0PJwJe/IBMHsv6JUkCYX2ZqhM8cqmTjdZX8Ki0wPGMJdr",
  "d+SbZAdSdnnnaFCbGvkLKrvNLS4zTh686RaaNANi2SfHmeptDmDH4hYJ/Jl8oBTu2vXSogrEBaEyLC/IjGMaNoyol2Zw",
  "Fjcwt8q3jGySdxA8zmBwg4ZJrsx/oYh2tI7h64AI3nQQlfnl2hRrADhOKjxl0wu6zf1CeAQGKf/u7yeEQxib7sP5yWEf",
  "EOnKEa5hdjaOnqNxETCtUQug5frMyGCR4SIwGaZcM2YJZkoTtgtOtPXmicFhhhZVSniTTp+Rkd9BK/dCiE0udMAafJDo",
  "6pzWSU+zV1sR/GVQ04pP1fvcEcrjFs/ojOaJQ0uyKxOQOplpqtrUjGAH8oFz5TJxQsFYoSfYY2itJ9sei4eTqRPOTG0l",
  "/Lmg3qhNKTVdrFV+WAnhoKW7rbINPzKyoRMEgklshJ+6NRnVJOIZ0IOP6cRXbjAYlSw9Ip3DGona1CqFXJ+TlhuVempT",
  "riAYlFviGYNV2o6BwBGFvIMVsbw/Wt9JTmxcLQjMSdCdR7X5cX49sa27RilV1kwkHTrtsBgJ5CiU11im1Hcw8hD34BTB",
  "YQ/h59HUiH47Ug9bxA3lXKRpIm2xJ6fh0Xb1jkXexd9CzOy7f/XM/Lt7F85uv3/rrYVrOx58+fb9O8fmd5zDz+cO35rf",
  "9+b9G1/dv7r9/tXTc7u/mjt0deHssYU39iyevT730eG5Q+fu3zgxf+S1uQPH5t+78uC9S7js/vXr96+fnHtrx+Le03Pf",
  "XLh/c8f9qx/OHz2xcOTg3Dcn7t86srjj7YWLN+a/PjZ/ZP/CrTcXvvxgfv92fL147hXcls+9s4tD+vKThbdPze/75sHn",
  "7z44dpkf3L57/gCuPPfgvbMPPn1/4fDVud0X7189uHjr1vwbRxYufXr/1h18ZPEWRnVl7siphet37l+9gSsXL78y/+4H",
  "iyf3PPj0zbnDH88df23+4qm5Pa/y6TeOzL99ZfG9Q3N7ds+dvTb/+qnF196Yu7pz7sj1+Sv7MA8LX1zHe80denPu6q77",
  "N7bfv7Zv7sStuUMHF94+On/pxtzh2wv79/K3F96Z+3zn/MdH5vcfnMdn3z3/4L0b80e244v5d6/N3Tw09+p7969/NX/o",
  "jfu3D3PY11+fP3xp7viHi3c+wKRhQhZuHF04euLBjrfmr16d33do7tqduTcPzO2+cv/Gu7j/4rFTc2f3z+0+tfCVluPm",
  "h3Nvvr945/DisVcXdl6b23tjYf+++Y92Lbx9ee7MG/evvrvwzquLZ28vnj02t/u1xUvX5t/5YHHn13MHPpnbfYLDPnAK",
  "t8XKzr2zBys199qHc2c/XXj9PCbt/tUD85e/wbvcv/XO3DdfL9w4tIDPntq+eO7zhRt7Fo7fnnv1+sIHN+ZuvTN/5Cus",
  "3YMj2xc/33H/xjfzn9ycf/vc/Ks7IDYPPtj94K3b86+fwNdzZ6/M3biOwcxDAA4dfPD+7sVzN+YvvjN3++D9W68t3DqL",
  "R8xffv3B9v3zB7/AbMx/8s3crbfm9r82t2/PwoUb86//Ee84d/iT+1chV8fn338Lszr3xusPjl68fw1v+trirlsPtmMa",
  "9+IySNrCyTchJJBM/BwPnTu+d+6NfRCeueMnMRKMH1O38MnbC19cuX/1LVyPKX2w69SDY9cWDp/F0x/sfXXxzvvz75+b",
  "u7l97uTB+V275/ZcxqwuvvImZJJy9daOhf2vzl09O3fgC/xk7tV3KV3X3+D9z3yO/9+/9snckfNzH22fv3xo8eS++QPv",
  "4AJI/sKpg5io+Qs757e/DinCfpnb/sHcgaMYJ6QUv8IA8Na4ePHsubmjr0MIITmYKK7prQvzBw8v7nh/7rPz8++/fv/G",
  "Da7OjhNz17+Zf+f8/GtnF26/zt164dbirc/v3zi4cOO1+7f24C04Y5d3QFaxJbHLsFv5Luc+mn//9sLx6xSk64fnXnsH",
  "C4FtC4nCnM9//AbHf/j2/Hu7IYoY+dzub/BeuAmkdG7fe9g1WMe5q+9C0ubO7Vn4ZAe2FeX29ZNz+67ws69enzt6HeKB",
  "ucWocD2E6sHe1/iOkN7rr869e2T+q08hvZBG3AqTzF1w/fDi9l2L596BtFMUj15bPHsGA6ZAvn1n7vqR+X1Y7usLr5+b",
  "+3TXg88/mL96bu6NVzmNpy5AEvCpB9uharbPnf2Qa3foTS76WzvmP9k7t3ePHvf64snP5vZcxAgxsdJpB3H/uUMHFi99",
  "himd3/cuNAw2AnTO/RufYcctnDyHCZk7gd16HfPMN317+9zbZ+f2YhjnFz6/AQ0zd/1t6BxMC66HNGJICzffXbwNxXIU",
  "uw96b/Hcp5RSLP0R7N+LVA4fvzJ3ex/2/vwfz8y/fXvhxisLN/biHRfOvLtw+BJ2DURi7sDh+Y9OQK7mP9j54N23qDz3",
  "nV/YdebBe6dwkwdvn4X0Yp4ffPTx3NWriwcvLJ47s/DB7bnrn89dfXX+yGHKw4mL8+feXry9a4Fj2LN48hXODHfiWQr8",
  "e6fmX4F87lj4+vbcrS/m34Map3Z68OX71DanoLiuPfjoU6zjg71vzh1/BTof6uXBB29AFKHxHrx1BduNOwUvtW/P/etf",
  "Luz/glvjxqHFN07MfwMN8wlHePYKVnbh5GsQOenhb/BS3HQHjvE0efPA4tnz0CQ8fW4cXLx06sHeQwtvf0NRvHVh7q3X",
  "5m6+wyPgwAlciTFzLe58+WD70bk/nsKscunPfwhNjhdZePvi4jlK6fwnx7Aii+dOzL2+Z+7Q13OHTmMXLN55G2p/8dKZ",
  "+9fOz73x2sLJ81ImeyBR3IDnLnFPQS1ff3vuzBfSn2/xfDl1cO76IcjJ4r6v5o/smnvrGO/GRbwyd3bX/TsfzR84vrgd",
  "Ouft+zcOzB3/YuH0e3OHPoNqnd++Y+HAFf69/9rcvi8Xzx7H4+bu7H5w7AZ0Pk6EufOH+NB9b85tp5Tyt6f/iPN37tXd",
  "8we/erDzM+gHPJeaEPpzz26qozfwate407F/T+7Bmz744FNsTJ6bd/ZiqAtvX8CZQkGF5tx7XfP8Gn41f+YzaHW84Pz7",
  "R+ff2X3/+kHID8/fT/biHan/DxxbvP0WdiKeCPHDii8c247zgqrs+h5umRvXF85Ant/C6cYD6I1d0LcUKhwu+/44d+4a",
  "nru4H/v9HE/kPa9y/0JXHDm68OEr/OyXBxfO7F+4fhLKfO5jqKZDD06/Onf2Y+7xfVfw+hgqTAWMZ+HMbe33g3OvH53b",
  "d3j+vU94TOAEhEmw/SDtCuzufXvnX90799p73AXvnXlweM/c4U91Jmpz4Vg//Mn8meMLu09CSue/uTB35CLekSKH8/Sb",
  "jyXnRyHkGA/OkcU7eK+bOCC42akP38LO1TnCs4bHyrlXcLQtntw/d/s97pTXXudxdv3M3NlXITzzrxzlr87uX/xsNy7A",
  "Dn2w8yzPCKjB658/+OworaAPbi28cmXx1le0Ug6c4N3OnqclA91+DM99FRufq3b+TaqRt6DBjiyeuIOdiEV8sPuPc9ff",
  "w8dx3t2/8f78V7ehAXDcU2thlc++SgVLy+RdnHQ4SR98umfu3E1aWXjfV29AQqA3+P8bh+Z2X+WsHv5k7trFuUPYBa9g",
  "V859+jH26fxHb8A6olh++vH9awfxrMUdPEnn39mHFadsX7sEwwyHHSUWAolte24/7A0cW/fvnJ1/+9rcoZ33r74+v/+t",
  "udfOY4dCG1PLfXp+8eROGidn3qcx9vXthRMfL77+jSbqC7zswo2TCzfO3L/1CewQ6n+ciaeOwVKCKqO9AR14/OiDw7sX",
  "P3h9/i0cZ0cefPY6bAzux8vf4JSnfN56C1bNwtEzNFk/OoaZn//6xsK77y3eeYMWzvWTeAsc99B4mJbFfbBg90EyaX8e",
  "PgoLgdvqnUMPYEFRtl/BI2g9nt9FpX1xLy1GWLAHTi1eOooDYm4P9iludQfGJ6R3/t1bNG8Ovbd49hQmh3sWFvKh1x58",
  "vo9W1s3rVL/bTy6+umsOWx4W8sEP7t9888F7X2M+IYQ8ZY68tnhyOxX7oZ34CDYLlCT3INb3zkeL52BH3b5/7XNscC7E",
  "5YM4GRdO0nLDBufk4CA7++HizmMLJ3juzL97BpYYrAueQZjhAx9j72A1Ybs+2LuX7/XGCRxetEawdofPcrvtu4CTd/7N",
  "V2hdHNnP8/f43sXPbtGqgSI9ch1Th1Nv7sx7EG8sNPQnlfwebNg3aTV99Cl3BKxH6sOPoVh4t/OXIGCQXu2mA7BhFs9/",
  "iv/Pf3AWu4la5SrE5sD9m59QG+z7cv7Mq/OHv54/eELnyGGazbtf4w46dJon5ntXeBBf3Lt46sDi7dvYX9gpXMGzn9KM",
  "3L4Dd4PhjWfBZaBXcukStPfCla9hl9Lyxwm19zS2DzY7noVTBqYOxPXBR19wva7zhKUehtzexAH0Gc73uX2fPPjgOCd/",
  "39XFAzsxUbBbsCLzXx2bf+cqjuy582/yJN33R9hpOBnn92tU2I9vvE4LcPcpPfcydMv9Wxdx6CyceRtHAy2NOx89+PAI",
  "lB4eNP/ZdsgY1gJrh7MArzn/9R+50NDVV68uvP3h4t6LHM8be2gTwtLDWQmT5jhM4it46OLHr81du7rw+SHa/LCybn3K",
  "g2zvHti61CcwWeHj7Ds/v/2j+V0Qwtd5jrx2CLsAJxFejfbziVvYHXRhXt0PVUlRhAa7BnfpCAXs5peQGSw3nZf90B6v",
  "QBSx3PMf3YGswkiDysJGo7v0/lt4O5p8B7BTDlNFw6d4bS8mnMf09c+5Xvu/4J565xIMUQzvwfZPqDkpY+89OPoF9Mni",
  "pau8D14QS3n46oP3jlAb43S4dYEnHbwq6HPYM2evcYYxXQfkJX10DPqQriKsx7NcGgi8jJwrcxd2Y+NAcy7e+RibFAfQ",
  "3GvwE2/jg3QNvjk5d+IEVAS9GJx6cGA/OmEuLWQYskeZwWGKQwfa/sDHnHxs6s/34UTDAmF/PXj7Ayw0X+GNfbD3oNLn",
  "tt+EgPFlD7+58NFnOJehmuiFXT+N4+nB+zzOqFH335k/uBtq9sE7d7TjrtOKgMeEUxi+yY1L2GVQzvPXbs998/ncoYvY",
  "3fdv3III4aTAFoNXhdMfuo5OGWTj7aNzb8K9+gy7CeYrfXDIz01IxbXF/V9D5PBeWHe6ithN0Bhw8F+B/LxGVb/7JJcP",
  "JykU4503KDZQSnfeW7z4GW22KzDI984dOUpT+fIH8xeOwrPjAfT6KZq+cPow/o/O8Dzdf5LeGcRy+yfQNjRacM21O/Il",
  "r88fOrR45/zcoffhJXHL3zjK/b5fe+GDLxbP3aaJ9So1Nu1GeHB46Os3eAbtfw1eOb2Da5cgRfMf7cTYIAP3r96C9PL4",
  "/gCn2575I6f5jtC3dFLg534GDUNbaP++uY/eW7z+JVYB7zt3fQ+GDbudgqf9Qn/8yNHFC/r5LvgCR2ju7jy7cPYCTAv6",
  "6Rd24hCcO/QudClPQziqh69i5rG1aRXv2/Pgj0fh1+DbhWNnaVdDV98+SM/oo+3wGuY/hqfwweI5WERnaQWd/Wjx0kfQ",
  "qDRaPnsd7z7/urx1eFjn/jh39hPsEagdmltfvLP45bsL797Gr+CYUDNgJFC8X37Ak/SVOwtfnpg/d0gq5czccdvRe/AT",
  "nj7Hv5i/dALbipbkofMLOz6DRMFGxSszfnL1NM6jubPvMxwBlwGW/+GrPKb3vb/wzgmavvjUbbh1++gc3b5DQ/rwGUgg",
  "/dB9d+YuHJz/5BDVEZxEzDbEZu+lhdM7KFE73pIh+pXCKW9hU8wf+4wSe+AilMncoc/njr/L/bt7F+x5ugA0GN6HzTZ3",
  "+LBO52OLp2Glv/7gwzcWTu7AXHG6Tr6Co3P+yr7FS9fmdl/ALpu78z4MJwap4IRe/Zzr/sZreNmFD24yNnJzOzwpHqM8",
  "2d/TSUFJg8aAT0HPUR4cvsbd4K3IRT2KM5oGP61NxqBopcAS+OgojiqsNXYB9dhuxigwOTyMbr6/cHI7phGGH+YEKvTB",
  "jgPz+76mFB36jLGd68fnzl+g1XHnI7jn8iCwkXfi0dQttKkYIpu7cIEih+PylaPYrfNnD1Cijn08/8aRufMH5y7gMH2d",
  "Dtq+bxYvfUpf6bPzD47CbGM4CD+hOffRh9Qb176GW4S3o4qDTXX4AD3oD97ETx5gv7+6G1pdMbQr9AQvH6YJB0fg4GEp",
  "nFcxGOq0988tHLm58BHWAibKpblTOCAO05LE/Lz2JUMHN9+f3/UJxHLus71UhrsvLO4/xyDY7t0M0Xz1OVb8wQewk6/g",
  "XWi9wAI5dA4+KR6HU5KRB3gu8C7pg9xmxODTm7jP/Zvvweidf+8Q42DwFrEoWDgs9Bnc8Bwk58H2nVSwrx/FWsPoohrE",
  "Td7dC1mCab1w4w603MIpWkELN/Zhxuh07P8CfhxjLG8cWTgII/AwVvz+1RNUeuevLt45MrfnA77ykf3wZBe+xDzvh/+y",
  "eOEYxAwTxZGfuLVw4yP8cO61HXRs7+xavHMYLwVHAOcRg0433587cIdXYvBffbZ4+dDcNXgobzOYCTsBm+uNN3U6nKei",
  "ht119jZsRegcPuXyK7BguWs+ufTgw0MLH22ndjp+ksHA98/Nn3uHEvLBderqV9/lLjv7KjcOFuvo61CedH+gfnHo738L",
  "+nbh7U8Z3/h8pyJUp+j93floASbW4U8WLn1C/QDbErb3zlO0iw7fZjTylcM6erBHPsOxJZOJPj5P8LP751//4zwMvwv7",
  "H+x9VVruMNw3OrZfXH/w+bswnulxvPvKgy8u0Lq+ehDXcB72wLvnfoEbfv/a/gfvX5zbvR+rz3jUzZ33r5+d2wPD4ODC",
  "61/wjLt9HOtOG/L8mziUISf0x09d4Km9+xvcduHtGzBaaL1cpNOK4562KAzpXbcg2wzcHfuKZzQ8iyMH56/unj/x4fwb",
  "Hy989SajxJ/seHCDVhkkh2J/4ejiwUNYblqnV28snD324P0r82cvL566MbfnwMKdG4vn3oQSxsaZ2/EhLaKbN+9fe51O",
  "39lzXLJvTiwc3D6/++D9azA4ry68fo6b+ijU0Q3O+Z3LtEY+ZrAXVhxnEp7yq3fwOo0+YRxxZyYhri/Kk0gQyTzpJI0k",
  "6yVxu5t1s/z3/bjRJ1CFGc8oE2C2I8BmQb6DPBRwttPJ2vU8Fn62041zFmGFxK8KUlo0kn4URsqzZ2G/g3vqPkWknwg1",
  "n3fzGM8t4um71zvCkRYzGbEcApYWLCfphK2wztrlaSXSCMktBC3ksIlG+X0/6RrwsRC2tgjT6X4nbGR5HmdW3ElIb5KH",
  "eZ7UiT7E3VoaecwEOBMZHGfYricOkUjcKaHmBYF+d8904pC4nUZsIFxhRwXNrYeE4ObCwmI8feL0hO3J2gRspjNEA/Ln",
  "eF/NUiEAbiGQbkesAKGQvAXzUEQzM8sexaznzprMsQnpWQgPk7FyIgkFzuQ7YsYaWbtrldtxIbQPVy3HAxLBM5m/NSRk",
  "LvxnERF/g3fMG0nYzSIMgtXavSxKOFB8XU8FKiZKAO+akr8jyRp5UiRYTdYhYaX6vAO+jpuUEMxKjplVeVUcExiVCUAt",
  "hHIU6g5h1uTsYQZwaTzKxDlnJiyUKy+EVcuIWbL7Ew2KmcqEGyyEui7wsglRtqwZEYy6yMMX717EM+sJ37RPjFuWxlHW",
  "iztYX7zs3euF0HlEyyadkLgmjJczEzYIa8oad49FyYvCfRL7h0+p2ivk6r9ICU/SDKvIMVPk87tfbEvwjLsXu/GLlKoo",
  "nLl7JoqzeIa5y27IKuB2TAg5oawsA2K5RPPusUaSNsI6PiREsOCrEe6JT2dbwi7eQmDYoi4JEXK6EIw2F1q409RsY625",
  "4oT6FirX5Zvi3etJWg8z7ggIDndlQQxTKHxjlH176dsb3x36bq+q5K9/ex5/rrLq/bvX9JOvv9uhWvmL+PrOd9vx8526",
  "5vJ3+/Fnl+rqP9RPLuCrb1RTf8Mq7b/9oz57R1X4Z3g33fHmd3vx05us1sf3N/g3q/jx2duq6r+Iq93vv32bY/v2KJ/L",
  "3+F+quBXhf3Nb6/rfhd1/695d43t5rfHvj317Rv49zw+e9LeQp/9Wr/FJzHuTzXmS/oZn3pT76u3xm//qJ/gKd/t1lvz",
  "3uQY4JWX8N8t3PmP9kQ3Ntb6/9GPEJ/d4e7Aa7bjjhdKxoCr+MQtzenH+o9zvUdPP69rjMeAzAK3xRxwG3fmOI2/4PZ3",
  "O3C3S386/s6fTuz90/FrfzqxT19v/9Pxq/rJO386fls/Ofin42//6fj5Px0/rb9P6beHdAH+f+dPx8/oU3v5Qf4E1xzX",
  "p67p7z364DVdc45f8O/bvIYXn8DXW0LuaV15hP/np3b/6fhXfzr+ub5+70/H9+lXt/X1Id3krJ546k/HL7t7clQn/N94",
  "1vsayRF/n+16nO7Dry/rylP6ySl/T1y/X29x1s/AWV2JMXytn1zV3c7qU5/rJ2/pU3v0w690wRn95Cvd9kN+kL86pWve",
  "09xu192237v2/Svf7793gn9/v/fe+Xsn73167+y9C/eu3TuH/076n+PPZfE6XP/+wL0LYnLYQ34GXE8Ohj24/sK9K7ju",
  "le93fb8X35/ET/d9v/v7neJ5uCYmh5P6Oa8gY8Np3Hkn2R1w3zP3vsCd8Nzvd+Bn3+Bup/D0C7ryBEeFr3bjipO48hxH",
  "K26JA2KSuHbvCn574Psd+PrMvS/1VI5tL+77GZ947yv3Jnvx9UVyUWA8e+6d05gu6lkX8HZ8U7JKnCeXBK78TNwUu3FH",
  "G/FpvQlGgE+Ro+IyPnUJf87gJ/vEVkE2jJMaLT/B51zge/nPYoSf4d778J4n8enP3M/38GkaC99kH/7byfHiyj33znK2",
  "9dVp3XM3nnjy3jG93QFdw6svc200Pxe+30l2DM4S51jrck7j+EzXY56xdqc5u/jEHvzsK9xjt8Zwmmty7yt89QVmaQ+u",
  "PICn7sb1fIvr977GT/bgHS5yxTWeV8TSwRm20e3E/JzSe5/kDONOn0lGyNpxjGuicex2a7eLjB74LWXuNH7DUZ0qZ/2i",
  "ZmaXnnVNUnEO48O49FTOwzXdba/uv5dvDrm5cO8bjkHYMNUGESNJ7Gk/7bUIck2bhsCWWUfAU78rNKJgShGZNcTuIKRa",
  "MyxaSdaZNIy9ICf5AOaOanqFpme5Ps9uqwQo8n6no+rnjB8nGwGRvMIms7qGdZyzcSrSRdhnjTTud0S90IlZ1b6V1k3Y",
  "GUQDHKtWll8I0DcTNga4J9Hmm+yNSEeDm0aJaiPyWNXJud4XT6iTfqKViDTC6gAKB1fmUwh3jXPiXYmQIflAi8jo1HD3",
  "Y2Gkmkcxe8TRbCy0s2zLBouqo36DNDf8DsYMIZ8sZ2uEHSueiIq+XldGM2uLGi2WLfRz8ViwyoSEI3UYFwOhlEXdGbLe",
  "U8RtOQsT8Lt2yDL32GCJhaaABkGHtgIGMU2cH4ycuDewegzNNUvJhMmPejB9plmmQKRtQVgm8XCpandprHVouhOiPKAR",
  "j+GyZJwwJ4G+WFLXVWlCSiyT1ZKs3IKb4SN4upaTvGu4t/0y3kbwbOFqK+rEazbiJ/imRWu9yVmvlRNytVFw6QA2otE+",
  "EBrfC2eEvqODgHdXudF0vAmiQKY72rP5IIobRDaxWJXFI0nB9SPvB6aY5AlJjzybBC9Oq6AupXywZCDWlYUBncSPQY4K",
  "1buSvBHmtVU5FFaUURg+m6RdnDMKGFaAGOBE1SEUjSiZpmXeTRqcnnXGudKms8GZDwn6TW2lrUzGPKIwheBSIq16Ytxg",
  "8YVwnTAaY+HGiJTl+/WLXlCPrbKj+K1Ja5/FBukgZtFZxBoJAtYI8Ncem0kymJSYSPyco1TRgWR+cryfTi0bIeiVpAKp",
  "eEmE50s6RPARuslSvuk4tFchARqMeiHw46irMoNO357/uL17I1RZ9+9sqxFJ22dRDrZRA1KOPRJH60gfwpIM+jcQjWku",
  "VWA4NwP1EsdHaVjXZ9VZbzru6d1V2lJwKPhuoy1xI9T+tQIZ1hmo2IVWfSNm/QAXWHNdUOrgmaxdrSc9ZUogWBt04tlg",
  "va2DlTZFmyghYfqs6R7qkEQUDtwk2NfcD+tZ3TYtPqI6CRkJ2SzqsWpJhAWPo8fjfq9gSU+HMi/8fm48OyST6c3Grrg/",
  "HRT2fhApvvQm277QL12K57ZWUk96LPj90ejoelMe4sBhQfUM1yHrCwXq6l5cccxyU1rdPn3AWHp6bc0g9wEB5yLmkIRs",
  "kC/JNYEUsIoI22xghS3F6GpyCo6oECFvrzdlRXLajlUFUcC6LK2ZJkEKYZKmOIXhj6NfUfo70MKsAooIrc3bUwk8l34U",
  "z7ZiEylWgkSbbMUaYY9A/XV2BlhNkRE8YTd0En5e2iYesM4FM7+e1YHTWYuUI+HgV7bDWTEEoV1pKkgiBVGMyUs9zc04",
  "Q9ktCExU7RUEnwooHYyNjLBYAI8NIGQRZAc74DFoBizuempdHJKY4oB0kwmuijfk4qKuBarAtjKOgv5tIlJmVis8bSq9",
  "1VfBY9IJeBU0QZjkxXrMIMuZWWEYpvXc4NmJ6qxSXT29hjy8a2tWPRG4IiUi/TFn2MztpM8qkK1423Vt0pCGT0Sqjf97",
  "e/dn7NRmWUrQy4TsXFvjYZrG24iaphT0VHlQJ3J2JhbjV5yPWvmdldMV5GTAx0nvi3d/EpuhmW3j4UZgMs4qOs1SVjiy",
  "tiXtfrtlSg56JYnSAfRzWyykkBIc8Bgnab+F9y7EbYVXwQhiq63uk+21Exa9AcQTTw02mR2Ss0KxH1OXZO3B82ZWYM50",
  "NlInU8HhznheKPEesylYZ1bJExFP5KCIp7mLn8+gynuBlXMUG8NGYqqZtQH9bjAr+iLCXdfMxgFpv9fplHRVGsULVq1H",
  "yiW8dNiQgiCDMtZdpBtxtCYQlLdnxlCdp27Rq2MlmkmPuGgMcJMpeDKTYs6ggXHDop1Jv5AnD/8kRUBCc757XsSKlGAp",
  "yE+9tqajDgJNZqEZYv5ZisB1EHNpO+aMbsPz21YPnMdWGLQmVlgtwiQF5AUiPDvEHtaRPBsOOOXBuj7rWK3KrFhvxpdV",
  "lRUigcM5TtK0QqUhGIQYMJaNdMlpjRM9V2lkg3zj3Z5sNwKJcxWrGWjbyjhJBMYSueDhh7nxoED47jhMU9WwQplDh9gx",
  "bwZWHEIssSlZVi11wWK1YsWYinxUcdxwdUg4SRTasVhYZKD+wGpwcpGuEadPrqL4CYH8oYx12rsiy/Vm+iWKmaUd6HKa",
  "Dn0t4wtWEsGSDsoZAdG1KSrxlGahbsaDAL8bhcm51ZWRxdGv+6RH5nnUFUMcTuF2sbmFI64I2tmLtG64jIloWVjWGNtm",
  "hoKnulsjiVrZIv1WHD2XDtowNF4wJWmFrIXIqfBiMKk6ScNVUVo5I/H5sBQVw+1JeWhFrD5WJGPpYNoKYUWRBfkzkhoe",
  "fLyNHYom+WNkpWglXRL2JCytlepSdQ7NFBISRf2elorVoaxGNJOxp99Pa6+lLEZgDeFjZs/D+uVzXw5EzLPRzEkckdRW",
  "pKyHiD0JwYCit/LEQpV0cfQE9w5PnCZPe5biwuBhvwJom02x3mXUZulJM6VZR5Y1SWJC+iBRF/G47rDmknRZy1etGCeV",
  "9Baxa1NdmBuxqRd3W3GHBQRxJ8jqcipEz7Rs5BlVngWcMQy1Foj0xkqWC5wrT0LIR0aewTYKrDarEJYf62Bar5nIJCNJ",
  "BobGgKnoDVl1AQ9Fs0TCpEYCZwRGelFsMVn6VUyygOAxkuT020ZNNNWbTWSZZSzMGJDdnfRzIezyPA6sjIIcMvTHWjmD",
  "iNy03I6qyZJxCVVK1uJlI8F6c+4g69iTpPQvMEA+PQgLPT3B9lFp4SS3xdQkme9hSMhyWDZi9XqFjSW2CVlDYxZ3aZhl",
  "vNrKD0QvNhIUtmJ148yygtNgNlZZ3qpVxtcGeYcQwgylBhPzB5RnwiM8qCdsqzBge4uApKYBF5Dk6PjuJ3mII2GC7RrI",
  "vE3mtc70chPex/EXrCoW71E+E5aGkAqIT1hnquS3MMvgf85AGPnLPpVM0SAFYZjqaA3W/s6Uh1jCoGIDHadWrBJNhirs",
  "ZSESJjNYB/2bJzrjWvHj3l3t4SCJWO4ywzdi2fJEPaRiKUjMzZFBA9IphsrAnPIMD0L6lPQ+YY/yZr9mSSJMDlWaqOCN",
  "x4SVaVgZSPCkal0CWjPcvoMuxU3Uhw36iu1EvIidIGma09SzgrCIAoTHjpsWqFu1zaj8ljVk5JTfz7LsMdVP1aYwMjy1",
  "Bx8kjeXtUeZV84PfYZL7Se9JNRuIWPfEfcFzICzEj1ebwltynq1MFgYkOwZMsS1GUFeXESxqGEhrtemg5oNxVU6NNc0E",
  "iLAmOM5IToOTrWE2uygP5MvQ+0p6Ou07famkX4tDPZCqLHo0/fBtU+ST1AXYlaT1IvemKZRgtpVxuBTSPkk0RExRwMjH",
  "eDV1pMxUvbsVdBebxFkQkMafq5m1uZy0lCBUPP/wICtanKwPuJjBs2aibrRgh5W8kk6T24OFSzjLN2F74H7idEsHG3ky",
  "QUNmATNY9Gz69JLplBbGksCaYZ5OhaqSC7ZQwTSRT4heVqi6JnrsUDpWRLh81Aqx5EbUpuj19JLuJnOdjemg2NzPt2IQ",
  "Ik6N8zFRaC6XXTAyUjcZFHUd23CwTtMxP6x9nrwYeaRq8nTQZR+URG5x4kuIRlTqtObH/VQbSEmzQo0UpMHgCjREDy/T",
  "IW70XTykEJkqXuxxC3LZtI6sCcQEKN43prH6UA5tOVRYKoanML5tYrdTeeuyEWM5GPvrbe00mFFfG/lqZIAjjwAXiT0V",
  "cE0M+3h0dGrFGHZsvtwq9go2V8EHyAOF/8mtfjH+LctAISgqE4WM5421tfGNFkOKWF3OSJJsvp4ZghtFpRGwa02QdH5N",
  "5raWnkwD03y1SVWjT4WBzGD2beg8rJYi+crgCYvwNOHb0Srjhsnyp/p0hwbrktw4DvQqEBt6Ls+IZiW1Wr9iowssrYRV",
  "FQWB1Q268A8palVJ38SWHjEKjOJX6qQTrDM/h59thzrnjBkDBuKAFHc6A6SaeX1B7QWLNynIHQfPnDz5GYvQYAf38vXG",
  "VvJMv4BlUvzO3Cs4VG3Zpore8bTGfG5QnehKcWemg3H6uS+E2DLqKSAuguXr+qJZ5BaFuFl0a+WGjnYcTGKu2FNxwCY9",
  "VgperFMydjDy0ENkHHscTmUMJWS+morhalMs7caWkd3zYrwOfl8rbC836og/2Abq9nXrFTrGllvV48jj6zav+7vgL2gn",
  "wq6QX0SnoofRq3CdUTiyKw6CF8T397DUDHSZSjmLpLmcZsOGnob7EzahmQhqU+KhZYcbyMtzFuOMzdBlSxzpHtZudqZl",
  "/QRZR3S/MiuagwY1H3eVxaV6OPNnO/SqyfnZmaF4aqN2prlg+B1bgECEawE84rW1iCXbWdee0MM7UAKsQraA889RkJ0S",
  "uzlMG3TeV0xIU1ixYAgbgnp+Rse/Yoc4XtdZ9JXcvHE/Dy2GpJQ2tkqa0iaadS+mY6ZQ8K85kCIS+0oz4dbGoBu9x81W",
  "pMuK6RnRmgZGuKJ6TNzlaVEeBI/xhM2aPA0VXuywcQyPQUjKVgYpt/ZUnPywFUbWAqOyWTtr2pSn/PPJ9MSI3o90GHzD",
  "dViolUEj74u/hrwGtSnGMXFfEW4WJLOjk03HoO8dzcKqggNsQ4YoZCuuDUaWifSyl4lk4Hnz2DdaXPhJszU2MlBAah5R",
  "V/w2ySlajpBhvYW1Npo1arXwE12aCuS6CBnyfFreamA8JsW6DgymzsDO9+B5C+08YV65uR9Fw6Qciw5JMVOMARR5PaNG",
  "RPOs2YOqBYWR6dkhQtIJGSVHwS5LNE5EFlRI89UHPG/F251vxT0hnxDIAYxPhgL5O9w8NH3GhlFYuJGRTTgog4fFgvyw",
  "sW4UW+MBCcN19qcpS9RxpRhrV0wwOhnPBsbWE4grG8o0D1jALCqFCTfaCcVecR6pzruwAtiA0Yg4bW6yqMqTsYq2Z3QI",
  "x+JDKlqMwOJY6jG+BEu2Ic4EHucBWaJ4ehaP97dSKxpN0Eo5xElv1lQeuxBhAcJAJca1NbVWr9flk7ETjXViRLRD6cC4",
  "aPKGOQ7c6Ly77LrOJksnMN6JB6Wkc+4NmuZbUMnDqInNryr6DDTFm+RFBi2T6+dFcdIRf0DRW5cynBLqsFHUg+6VbN/a",
  "1JjM0CjKZGc1bULIv4prGA8Je63H7cRbb6Fj47wpVthhgyE4M40d4WglmOpiTG6DOZrNpNmL2QQnYDO2MVF3jqktQSdq",
  "Gp08fDVSCWFPparXnob+bqwNnsHDx+RkQ/uZZdw1ApAwEK81+dcwBWSwpxJQ/Cuoy23J2dksoPfMYz4gV0JAcIts/Vys",
  "JI7kiAwKPZ1OPfEBp1k/auYMteBmzyhYsZrJLsZ74EHi0HvMwsO0+jN9gBCjGdu3YoiH8SwOu4htVqAyjNMhENFIHD1t",
  "ce+nRAgVqOPTgI2D8N1A0SZoUxFmCDVEE4NM9LWpQiOYZqsfyOBjqspeQdY6LHZu3Eu/wmHM3BkWIMBJ0yf3WmR8BAXJ",
  "gQMIi4X0SLPJJebZiJkI5eeYRIoAAB/FyRVljb4mskVufZHpk5mm2bcIVGCkF1NPku6tGPC0lzm1BYsZ/cbSHhyuQgoZ",
  "kzyWUwwUDGjEfRkXwTPmT1s9/0hMZ6LTq8eKrUEXrCc/WrKNQsTTvp00frxK/6Pg5YxLRTBNAyMaC3TawmKBsGgGYZsG",
  "a8UvzDwQWTuKjWaUso8B7cientvsKzg9o55L08bFhDNAPj6xUfBkxeIdO56XgnssZpROJ4rCaA3uD7JwGPXZKLvEMF4Q",
  "drhZrLIeUxnQGlsxhlNz+QoFjVZMiDjYNh5PbdM2zKbyOMoT8vIZ5VFB+lX8scgs9npAZbde1nZh7FPBY305mo7DaLN5",
  "Bdi+ku9uTNaK6SwiK93mcJryuU6bag2PLSiW58XQAkknBEsdKKGQjPrgJ0+TECjtzMYBt8R6y8f9ug+tXrTNX2FohWeV",
  "MhMBNH7BsUDF0YETa/jDKyV88KYyXp2O6IQkHS35Seht0Ct0ZgKOCpqhRm9lrGHFY+R4yMX/wwQ49z1Us8kgm2cGpJ/P",
  "cW7nT1qYaQuz1/A+dZaPjZl7TNOkQ7qbgK1TjJqIfDjY9x390zNMYi1Q+iYPyBFMDYrHdTJ1KJPUQYcM2pBAOQTsbhHn",
  "q4wWguYBrF+zx2vjfxFM/ujv1stJC9ZmCo4E9F2xj9TaLQrM+qXbUpTHSxGYcwFliA/MKjnYKIz9jG0rSZ3CjpBUgHh/",
  "Tp2LkUq7BYFRxb2sqN1yIxJskWytnm2btaPOXiwiV9uL2GNBlME1yS04PhbogJ6dHathPetyiKfF+J6t4bxhrscCBc4s",
  "XFS89NIfXp6YTWQCZM1i0LHpYZ60ECdpzAgnhZ2sK5vzsC9FGhRGYGeOyiS20yaYSussCm5u7ph5g7315g1KIGvB75IU",
  "xke76MOLrbPnWB+rVU/ErTumlgDLjQwxMN7BQjwxWbNDTrQwXW+ZbHLZpaF6FWBC1A0gHYxaiGfUSBYnx9NkamRkLFB4",
  "ERuPUgz1y0D/Ey4mLp6vYCYJ5at1yVaZQvQY2cv7qaznXMG4hu1GGgXk6+unVIQtbvpsq7EnrlxrQrTcEacpzgoLWCTv",
  "5GrG9D0j5pLgb9hnNRo4NiiS9/NmiqVHj6nFayH2/slxGnW0bYzPkQY8tHAraVNq6EbUsYzy48bI809qcPibbOvI1+pl",
  "xZj1eYwUfOiSLK03MPlak0igB09bpjcMtBWeivO69miebIUkGx/imKN7FPmfS3132QQS20mRtDww/RkwxgmXDtYFezwy",
  "KIpNkptNpNx4EDDr0Wbv0iSXpsUZl/T+xix/2MJZJ8mMrzFw9IDunDBKQoZGGQ2trWAjteUKBqRMblOjGKuaG/TKjYYa",
  "wDSyx2DAmPjaWmDnWdJRMGDS0hjGbPPbqcl/Ow6VyBAQM9JmrBckZM1h3uoQVo+VsPjR2uBhfM9wqNrW5j3MhHHBrFmX",
  "h3VYctTCePeGhYvILsa3VRZw1BgDV0KUeG6QfRm/45GJrbY+5cx1SKXGYNy0zlsL3ooVn2rG5SLtxMOrk4t7vXmYRl5V",
  "TJnbqplg1A+2Zz01Sr1AyAq8iryCsW6xphb8dWCdY3oQJ6a6SNmORTW+xUIk+xgZe4gwjBFRbmhWyErAzdfWeBBZToo4",
  "j8fCOvyZjuXHnJpRuIE52J5ScOsKma/GRFdw9yU5ty7jhHS7IT9PkXE46zziIpeNBq0LIwkNSMfP1KmZaSvURW95l9oM",
  "t7eYLLbZr/vpANP4l0GNFi4TnAy7wlpj0AnyKE+Yob5A3U4f/suHcRyaRRwYhxoPGw7HePYKNlfmqjDnHToi0GDSRIrG",
  "lpKQvHI5KduwESgucDGwadkSeixQXk0NTETRia8H47Z/69OyfHAwcME3WM8LNRuB6WfmwSPdbcGj3W1b1M1kTF2RgtAY",
  "VMfgqNBiMXkeXauY3ATlk0eTCGPH7J6BjshgrXG3rqSvw850RgxoBFMMkhGAxHaYQVgYZ2kkAsHcuPlHAh7CmVhWaVE3",
  "TV54PnYY8Q0Y9uCU87iy/OGsmRWzLUVhmevCLq7nU+z3abGcwDLEa3VIwYLo07ePk0Lxs1BLFKyL2kmucO+2OJow9tvg",
  "GcMobaRcrwyoSfIkoy3FFGKuAxb7ndSJa2tqe0IiKEsG0/oN9SZSsrJ+pYzV9SDAZLVp+bMvVkBOM+zJfq+AXiqaA9y2",
  "KRJB2C/QPZmcNCNKKyR8HQbMsP3bNJuYWElkJEaJgtpPMjkL51WRueVGnsl4ZBe3MZxHQGHgoUBvgilX5p2LhoMZkMzK",
  "k8mN0lHDUsFLxtk8MO7JYtyO0fV5hgGHgfE9sgUDX6wnd1AKAusQ66Rb8Qdix6DjZGCl5uqxWRVOtCf1v5rt6ZpaPIQB",
  "izyyQUFLKmCvGDbR6FgyOG+bBuvX1YIhj4VloykGiTQzbUrgR7xYrA67z1rKIOkYHXCmyfgdKVkfLp61tKpIJsOO0gn0",
  "A3Q6QmfRaDO63gEtK7XH1YlnvJx/oNlPJkBxqGIPChkyZrH/QExhy9W3qTbVJ4d+bSrYxIAygxYzOgJw+uK0wvmJ9aPp",
  "S8JjKBu8tGXlgsDSEQyZQKyW1x5/7pn1mQEOtc+Ji5CbE/yNwTaMU5BJZOGJMh6/s2ZCT5iZ1oucopYO6bThUDHmwaoe",
  "2sOKfJn0PKxTFCe4+H2jxwjhgn+b9YwqTFxh5hc/Mq1YTHe9QUjGHA+10b4KrNBiApZ5R4IOqesauovONmYqAoNwETtQ",
  "0FVoicyQ+Cy+AHSDYeHW1i3OR0cKJ+batQHDKpMmriOiG2UuS6labUZHPjomGz3r8GDH8TlmMUTmsOjZQH6bWW4EsYFx",
  "FeK11WcsMx1ppH9j1IMSMSG01lu0vjAmYA4ab0MhxY6mlYUVNXXPtaMIU04SvJHl/zCxJGWk7ML8E4UhoScy0yxt9ULd",
  "zAPYwWz1sMGMdaMAXxkGyuHw45iKZ8X/F6gDSJyz6ztps3nr0PPizmaKmy83EmOzKqRq8K6jtgE3ivdSUyuzIudSmZf0",
  "gvFfrxTOQrDTJItWMuZu+VuLqwk4qOS6w3iSu5KG62CdAVF6yhsOtpqtoSN42Qh3E1YlJPQq63T6JC1N1xvAUcF+FhRJ",
  "WrNchgSjNphUXL4SP2zk6ldmFHmjhmsunmswVcZmDXTSbAcEjHzhA49b1CFmUI8WS9FiXo192lJm7lILM+HbtUlPmBUC",
  "rGaoJwxaqgPFkRsWJnQj5qSNJXQdcQ6a62Xn5gthwKZjMIa2kvLeoFAraVHjxV4wAVWzMPYf4QysNLQdDlhNTF0br60e",
  "cjg+xQMfWI4v4D7TMVHQNjYO5cDkrJA1kQ+MJL0ILEm00fBLUDJcOsOQR011PWRinbtDafikQ5QeDBUe0IyYWUic7Yw4",
  "WaT4hedjiWlhgtJUHfaC0Mg7A2P8HuOteYI9HcquYEq433sKEwgpkHddHzC9Zl4Ps2FRIuLoumBMA7k+aWjnWCGuy17B",
  "PTZN8WD0tZPHzX7heaWDtb/ZxM9ssjSZ0WIWytFCHDUDY9QWeJ5l2leyHSTzsH3xRWo7pakZT+OmV154wXhZnwpzqLxo",
  "XD2XTMfJpmR0lVgvAi5IMw/rcOsAixf+hhVwUayE5rKRdT0y/4ZKYfetr9ZgJftEp3S28F1tyrFgqttiEMJcZzQc0sOJ",
  "FYM9Fs8BtqUEArKiBn8YMfwR+0HzpVdqM/L0YnSUntrv2H865oo3QsnEU+RapiYSaMHxSv7BhJY4OsY8msKmckLYoxzv",
  "h5G17ekEJM0Si9PLWePIJluYWZ2lHECbgWvOfZb/piDSZZKnEw1r8tImxaihxFoW2SMdJp5C71M9GGMmENiOjfHdnnwZ",
  "ntr0l5TFKBIDlzXtSHis34RxlRk956SC79DXOdc/W28pA3k5Scc4QB14XMcnDG94tzMw9o0dP3iZTbSYYQt4I3XUCVOm",
  "zjqE/1IPjvf6bPtIMlsmwjdh67WF/2UacDSYDINWbu0WcFgHzz63OTA6/ZVakxDKLw+MM59h+p6dsHIll43YYT/Wst2h",
  "ETILljA9U+PmrE1lddhPpC9mRjur8XhoJjrYMUdPEKwFR0xs7klHnjx1M0Q/JIl8L/41u3nF+b9h7P1HAc0pzDYhCIL/",
  "Uk8HhaH0MFIaGn9tYFSrl3DHdVBP1LtSB+zaGiZDb9STX/28yi1WGgN0YATageFRZtUHFtLJuEkYdC1mlZmCH7UFnDDo",
  "kZGpB8aKbPiKeLZrZ7EaNAWiPcdLh4HwFMsTHW4usDBhue+48+KA4CQFJqivKD5/sLQQRxl2BxgG9xUjO4qqM2Y/okZr",
  "PAMVS/+3/VWrHl0fKmYYhEI6PPSQoVW1M6FJJzetf37Dxs3PG4DF2NbHBTrPtj022BAtr21TAWixctbSnBhLIaFsBthl",
  "RssfmIFaBL9hQFe5w1YoOnKskZa4PiC9NhNqlugwxzYaNyJ+a8/VmclS2ih4ArN8oW3YuqXvN1gaXhHj6YwJewzUtlFg",
  "OLJJi1mEE6SFnhw3GvRC+KqwZ5aDlQDkcWAc4Nrf460wkM/eNXTtUzyP1jJCxnlmXTQsgd+Ggvyt/bu/n1je7Bs3eTE+",
  "pXA4Q284UTfYvGg/TP7IEkBFYJCQx+Jki5BVOATvfhIZbF8V2XEfCnUrdPR0GCcpXBQoR3xvgbeQrla4JWb1A57fsyYw",
  "bZYGN7Lu3WPT6kYJl4MgaTVUyRq9PltQ9QUR5i0o/rogtF4OLGovyor4kLnPu18QP9FIwsJ+F1oNVWbl+GRpZ7mv4S7C",
  "zt3r+FwWsvY7YpUwsbptDKLOpo882awkPrNOUvCHt8gnkk3cyly9uaqKoox06tPEiKrpBkvJ2cKP3Rlp588YXJXjzO5e",
  "ZyvmTGdHVlhpU2ZFQtbCSVUnOQno2dYpyTAgdklqq8Y9s4rxIrZgkNpqse4FU5XT+4zvXsh6gumwZVSUTGdqSRFpHXAz",
  "hQaSMLRgHGaC1VPTfQbwcyMAKBy3AL9LYrn5bEjEQi4ov7tnen02UuqwLxOrztkBiap3S9bUuRKq2or5Nv4uFEIOSloV",
  "7gUmjGBojD65e7Ej2FRP9bIYoBXlW8uDgl1/GmQvaDR4JXwfvHquxl3qn0tUIpv65HeP0dfJE8dMULTdurNK/wzsPMhN",
  "J7QpFykDxsLuQgl7W7VZOU6Nc/d6Ry3CMjUEa7NNGKY1FCOA8P7EWqhbdtvaNtMXY7aeyXR+TyOfuCzsyRB2lCtDYtNM",
  "ZQCZ6WLQRT2Kc/YQtS4BvpNNvM3KbhSRx3owiEotyaXqKbMfEYIzcIWIhXvl1BXSFS+OCu2wxpXdwE5osvYmtuKFHvtj",
  "seyejOs96TcrGSlctU5E+5UfFHBX75uobovxJwYeiSKjPLOyilB0w5GFKZ17Wp8GOopzV8sF67FQAR19eUhHyvbNtPVd",
  "7Y6UHY9TV0tXqJiAhkZnoHKlsF4IXakaPeZ1Z6wbN5z58EVix4SgIL7Q0vSKeuLBM6bbgkmXS6YDTmwG0w8EovWyaalC",
  "V5QT1dU9iHz0s/I03Lop0sZAXuGqk55262zRHdZNWn2bul7z+dC3xEi0sQMJnPGFBXZgpwMl1llBo+6uObdFyMOgyeme",
  "YTVLrPCtUKHqTCOMfY9lRhwbySoYp7NkbINtInVcqFouVAcplT+56s6iA1UkJnoHRWOHMqyYrxSLLIVSm+qyNQp+oDij",
  "6k+5upBTGvj4PNSOOgfS36dZpC6tuVpctrn+hJoyOkern3IgLD5k01c3MgiAO/eYRaQ86r3wzi4/NxB8C0tovQ3iaK3V",
  "gTC2uZxxDcuh0Kuw3giU5z5FPxLKYRAmeYPdYy1UJXkTqoyVM0RGuuqpwgHNo1ZWCDVBwA7HT5Ar3bCw2+U50HJFndYb",
  "ZmoSSqmvMJkVDNQCp6VTU6KwLlwRoovBDwRTb+KiWIWn08bLTzg2Y8yNniHF8NzpZLSedMZdwZnfhyZuqi8yY8SNG/uF",
  "hw0EYBvmngEi4d3YdDTiS3I7WJO3RkNT84zbJwQMaIOpx0ln2gX4phwaP1oT+MLTntqxE8HPDbTJ6w/rCpAzsq76T3bS",
  "mu61rPYZcq4wooCo0qOsq2XYwgp1GwO1iye9PTcqrlRj0mbs9KrkU7GKFhsfcCYZObb9n6VcaKsOiyi32LE9C8jUAkNI",
  "s2nxQEkbVypUWEce39UkHRAAwv1quUboOSLyuqyVg5fao+qQfETqjC5El+npf2XwpjGHQmpMTcLgnOyxBkb6yEq9YjZ0",
  "VqhNo2WJt0Pdqnkh3v0pTB4tM1dLXbgC7YLBTEYpDTLBdWxn1Oe+bpwBAZyisSXHalO0xugKWelrEv7O6maCwJUqPu30",
  "hnEMNXo6rNW1w/QavR7azS7QN+JqfAvZ57AQVSvF1n4dK3eyzgSYOsXgU4eOJ85SBneh884qAqUvnvf63+pkIle2XTCv",
  "Q31QT6D3mF9hV7B42rBWCdFLgnITqqD0rztnBkroQO42mqGWCjDCgnPZb7a7IFuR9UcZn3J13oXKS0aCwEHWCte9buAr",
  "3xyCPLJeXdz/hkIlOJR6HrsMHij0F57GdzS5gbzBODAEnsL1U3KBsTJq2a7/U2PC4uGiY9Icym38aSvdCKyPVG2qFlj/",
  "pWC57Tv2bOTzXFR2ROd33mC4EpOVhHZ+cBES6ckJV2dHk5t9/2Q1cF8TFUKUBtw+qnJXbGy9Q9YEP7ZSpUIsBYpJQf/a",
  "+/RTZrImXeWIwxwQRKVzWH4S/p1ME8m1ypqwdOrbrcI7Bq4a8aRF9qZM/hhfNFiooRziFQzg8txzQOmgba0Pew16mHi2",
  "w5Gt0f7DeeyQArU0eVES5sKIwQrnNrpiq8j65oyMaLNh46j7cZvt3DuSC8ciUDjYvMIJ1Ek8J1nt4yKKA57FPO+39CNV",
  "PLoS7DGmoXmfwG1gq3Fnxz2B5Gt0m0K4SdboTa3deirP0PnJHkihzqmxwMKiUSKwSmClD4141My/0VpglasOGKUiQqo/",
  "B91zToJVPwooFZu7KD2DDemqksk4JcPQzJ90sCZ4WDnAhw0M9LDe1neFo54VFo01ZardCOxcbQ6ehA/DM19BYKyQr+Jx",
  "KOjClc92hGoQwH9G8vE7FjSHbV/Ylb/g2DFMDzQGjj+AgQrt7GYab6Ndud7ZyWk4m0uebLxT1ndSHa603kGlZJb7CU4r",
  "xXjK0VnATW8TCtNxRBGB+njxBLD6xGLcBQXGnQFsdBbUO3mvP+0Kk9bWapJDfDNL7SxchhRtpI5g2D+W9awFTo9G1K6F",
  "lf1JL/6E3aKT7gSr5R/Hu9Wcl07fgX2qDc9WCyhblCBDtrAsEha4dX2U3uNyMXTreB4KlaJnSeFgjSMPOU4RR8SBwwO7",
  "A3qWISXqN5arygZW7kEdGxWitCoU7YMuHb21NYPvPOFAMs5OLKx7Zi2Ic1cdHrkY56DdJfqbpCWM4tFhY32KO18m1c2P",
  "B4wBewtHIjLGvmeMsQQWX1rryVNMfdSmxhwA2fQeWUASq4Trp9M8osZcGsqNP3Il7IErni2esPpHdjmiHBbPOT1fcyB5",
  "227qa5kzLuoYT4rQ2UGqkcQAH3d2kxxUvMBYYMXuAyEa0qaDKQUwyVoJvBbH0RGoYqie0NOnHzdQtlT1/qYPmQ1j0NS0",
  "GKsU9f6Bwx4XDigcuDqyePSXv/zZX42urrFygr6kc97zwHN1qHPjmlUug9Cjj0RZdoQgxairQVIIAPPosD6B3LjheQ+x",
  "YVCc1S7Kt9Scfhtz50XkSpWLaVY0wh8dGVkngAJ7IFGPKXg0SRKARhaVeM3aFKNLPJccwQyB2z0qmi0QbgbRBMrGezgQ",
  "+xjJSVTLCT1OPeqqFQsrlhx5yIp3KBfGtuOi8RO9zJAZk+PCUU9lW1PGA0JX/MZ4nKq6V7lSU8eAUDzv5NZxX0TB8lko",
  "ulYwFtj70Q6hHpM9NSy2zh3FSuDkKXAFFjVHWBE4fhUGaWQfTjhKgglXnOXREKbXwnSlkz+PoB+z0okavAuV3Ey58B5R",
  "Ag1od6LeyE3Ra0Ee8SKRHJoi/glNbzwOPp1geWpei+drt2n8RoziwKQeTRNoWGGUudKXGuMYsHPSSZcOd7WEk5MuifIC",
  "KWO6xUuOOqRw5BFeLANX2Rmo7XaH9r3lOSfrFp9MXTlU4BRu4KrmXf1yMWmx1MDzLDgmFpYFQscbKIt2lfn36WCFI6Po",
  "hdtUWsEyEP7ejXvEcU4U1PL9u6cL6828OQuco2rytWwEZhP7qw6gNTGFSSGvGnZ0E0I+IEIzy9PoYaKb0oiVGm651np6",
  "HOdvt7vbJgj6Hg1cXbYj/Snc+0QzodnrODfaXXVBtvgA0zwqqrLyca8mV+k5km9DR0+6gsr1Pr7DAEoz2TbiNoo73oJJ",
  "p/AdTUah/Bhh80YHEwTOsHLmTaASc+htpX9IbeDYYHwtojJhlCPj/Zn21e4G68BnHI1SgJmHTTBldhDzuNZ/j5tG9pEV",
  "l1pcgkM1sSyc3hqzrp0b1JsU8z+gU+B/j2fXHF/SCmVJkiJwrB6F5gnr5KgHKDfwUTp0eqHsIZGGDVpLTUcbcUvIjC+z",
  "QORHKRyHSm1qOmzbA61sOWC2hPvNyVPApLrQr9RCiit116zubgvG3AWuWqVwWONH0vDFATVrh3E2TJDmV/UvUgM1WTs4",
  "zw2oNTnu3E33+zWPjLtAn+MOC5zfGlhmuxY4whuXjoamcDAyRyIzstxawa1Ybs3gVrRg3PSKrUni7MY8a9/9tPPvdvXu",
  "3sy33j0ZkwGOzG4Kkd79oiOUGMxKF8R3vbvZM12R8KLDyDIFXHZYkrl1zFy03++LcDqrJ3SQXBi/cAFudtGjYRVSD/H8",
  "ZMimf/cL3F/2Nj8/EEOqTUPWvXudbjn2epGRN9TsC5670hOMm6YMO6hHYofxKAaje4x6y79gZINctC5exoH0EozOJRQK",
  "2Vt3L8rPgGcKY0oR+SJs3/2Chu+MoiVQDGQfikRX2pWjpoLVMHdFmFmXBWusDOFz8T5KWjAM6ja4SzYU+hy5dO9ezCO4",
  "Ji8yi5K9GPrEiAFw1UUUC2sMPxxfmOLEIfjJUiamjrFOLu6rzpq8zn0fuqRB4eYvFHdsMpOF/AZjFKcx3ovfiBfV8hD0",
  "48k545MVsAuFPCGuI2OYPeQkdpKQcUk+z6U4oKsbYtQNMepUHbAT/b7JKAt/rgg87RrvbyhUVFiBgdad2ZuiHiq8FXtG",
  "LvPDwtzFYzKL0vB7epYmfzTwtty9OMOEgcXfelnv7hcNGhj4/RYSJaunPMZv6aiQrmuf7hMTIByAVaeyeAGzd/cMkwQz",
  "mh/jsXOfoxwps8O4a0Z5FjkHuyPHKj2lTuAXkM+7F+HAZIz0aN5UXsSm8Nxl9K+MnRcaSfOk9cA8ZV2bf+UREj5f9m7G",
  "YsoZ3IfdIHk/glWSepK7uGAou0b7SgDZMDQxxVV3zzAQGd29yDJKx4/BfaeMCjmp757JmPpukPMGO5d6F3YP7WU4CJyf",
  "OiMxZHYi7FzF+zgPQ1t/+l2cRzUzz6dDK8/OZJxRuhTvJPrQ1sNlcs7AOZgRz7BowF4kjTQpo3qKd6v6zxJNRKfcPUN2",
  "YDFlx9q+031cP8OPYVzYpmQ89uy+Bd4JZ8OLys/cvRAyP0K4s0tAWbwt1kmgzqguv1hYyST2JTYv4dL2HoQcGf+zlfzG",
  "LtcFObD5CR377vlvL3+3g0y2/Pe7nd+9WvIA419+79iEb377jl1XMveSj5dsuuIZ/m63u+6a7kluYbvPVXsOmW91vbsf",
  "/tjvz4tp+ALuw9FcxRX6nteKsfe2+HivYSSvOBbiW8ZpLFbg2xiP/XuNT/puO8eM7/h84z++ab//7nWNfZ97/lWyAzvW",
  "5EuOA9hYe887nt/zGvsFPVO8w/gEGYEPkdGX3+mtd5JxGffmyPl+N3QPfv6yPof3cuPDeOwacShz/BoHx8efiAGZzzn4",
  "3R7N00GuhkZB/uBLGLcxJ1/W3S7pPW2evsbX+9x83dT6XMW7nXeMzbvEgnwenxJbMb66rTc+79bl4LffiJ/5dfEVX+Q6",
  "ifX4opu/a27UO8UufQvX2Odvu/c97/6l9GzXjF7FvSQX+tmrlBvJkTFFi7MZ470qHthXjA/23mmys36/W7ywxhj7hX5+",
  "Xoyor4j99iuc9geM3fbep8auSwuAXK5ii738/Q7H+TpkoeUnD+C3+/CTS+Rgxe+NS9c4Z0/q0/vIM3vvM/z2S9zxrBh3",
  "7c8ZscfyLq+Io3cfuVrvXbl3/d43GLPu6xiAd+k3fD7vek4MwK/gqlNu/LvuXRK7LLmCd5Nj1zHRniSvLseF331Ojl6O",
  "FP9+I2ZZ8sWKTdfGz1FjxMbiewEj3+3edwcZbL/fKW7e3brf146V9wsy5OLfc46x9oBmlGy4xnH8BZlk+Vmx7fKTX3E+",
  "cO1n4ije7xiET+rZZzBD1zQPV/DdJfeMi/jMKzaf5PHVp8+Je/ek8d7iaV94Hl6x814xzmSt6Q57vuPqPY3f77h3Rffl",
  "7J3V3HJdTrnxnbTfi52YPMbi6RX/Lud8t1mFWK3P3PyeE2fzSbeme/g+4m8+rZXZLf7hs/zK1uXP3P/+kfvvH7v//qn7",
  "78/+0T/+J//0n/3zf/Ev/vk/+6f/5B//oz/7lw+N/Ef/8bL/5D/9T/+TZf/xfzTy0L/8z/7z/+K//K/+6//mv/1v/5v/",
  "+r/6L/+L//w/++/++//hf/yf/uf/5X/9X/+X//l/+h//h//+v/v/4n/+Gfz6H+Hff+z+/CP355/od/5b99W/dP/9mQb1",
  "TzCUf/Zn//zP/oWPa1mUlRUoPkNu7RMsVtxuswJogMMnSRllEbkSDffHNz8+vk0cTIKUwVFgmSbrPdnpIO61htXZcW4x",
  "LxFL1XWMw5Nzbj2D1wTJ5jXvMMPPUMx5StQcNOJrgavWwXndt7SMkpaE6GUurGVhiyQdmD9nnL0pY0KxI6EgbT4rBMkJ",
  "5nLMgf+iMF5hssH28r4S/QS9KINf85moLiv1WSZEELkNw+WQHbMaPEBWLylSWMIn4m0EdJDhlzFtZdLMc1k2InQ2P8+U",
  "hoi3Hksy5Y0GL3vgpU+/FcK00YFe5xzLwiMpioiOLGPZRSiWmN4wOeqYBmDBCGcFY0K4BUL64dimisg6NqzJceP6JHWh",
  "xR7xGCU1MVqsGIbB9C9/wlsZdOrFOPKPiERZ12HdGN5FmLpeCz5zB6LzrEumBWNNjKxYvmKC9rtep51M23qFHRo1DU/R",
  "B5fRGFNE6lqomobUfHQ/Z2JDstH9ZzCFiUemDpgYHFg8MSkj5eSdhPQwNm056qRoi6uG18Tqsg5zbV0ab1PoPuxa5C3y",
  "QJRCuG2Gphw7GgSp2WSsksktC7NPqYKVvzdwMb4Y94FGlvco+eDQtmtrdb/KytzNkuZPdTO4hlDOuyfDpHgKgj2YzTLm",
  "70LzuB0Qp8AGEcHPiKoZ+PjHYcvS92aJnFAM0Xq4HyqmIWccb1w85nA+DPw1+7zh1IgLsXvX0vMdEWQQi1YsUFSIZe9y",
  "85rW1d5hgWPGHLosV7VMxYiHPBSqsuHiuvxCmBr5rWgDHQ7AlVvUxh0oP46e8NuqywqoDZ3ecrZTUVC533H1pHiWhjxi",
  "aUoM41kIi7CDsRKvpK82Jr046s1mARkbCiuK6RlWUJXrjuq4NqUa8k7IshzLc0aPCbGsqujcUvQ9JQRZJk+fgUFi8ZCy",
  "ttC/TfEEnak6HjDpwJJTPlGOzxZ9IXR9PeqEFYTjPr+KnSTQFVL6F24Sbq68e1uFV4UHRo0lHWEJRH9mGKD1Xj878FK/",
  "8Cgb0bmQ/C/2eKdChRFczo4BylkwO21Em5Iao91VqXyd8GalawaOEi4dsLpTa+oTxBOGFHAQJUuvGV029Ab0unhT+AFJ",
  "eaKMFe5sPJykZOBuY4hWXE98VQIKu62MVJRxG5PXjT04qBCqiTCKFT7eTEo+3dkScuKTamcNpuJU9C/x29YzdVH0XVbQ",
  "RdeZxrc0ZFGeAe5ZLB9MIkkUxszqjrrnKYfihoqzKKbLUkceXlX4/PlI0S8s4+4yGMGqopvkPLlSnwsfaSek7YCnZlly",
  "zJhj12A8mVWzECCjMMPgXcBri9jaYtKOOxpm6l4DOUVU+tLYjlRL7LW2YAJA8AWNnJopfbLH+KKVPo/+X7tgYSCkvSgd",
  "XPg1CtNpnrSttgc4FcSkiNzZsOGdWLmRfm5gLW4Dn32xNLrhYVxJmoB9lnla7qEiBk0zg8HI81coKtloBR4tEo36vOiT",
  "cT0nq2HgE7iBzySuEeSByg4bULluHr6soKMlkzJSsbZmktkgk2toB9A6B5gLzB4iu8E2V2r8FCfjb/iXzxp7lE3QFkAB",
  "R4ngOyJnbTZN2Hxk8iEXYhePh47jMcisI0tTgW3IIsUM0z7byjxO0QWGCqtTSeikW6pSuUhDQVIAZqjTImP7TQgJcAHZ",
  "MUfQstxR2REJwswFRsh9JsrFEvPEKxR+8lm4iKTAMjhGvYqMO1wjAuFTJxsO4kaMwpSRTvmkeeC4ZePoWRcODvxpNdkk",
  "uIGW1QaHAAyCrFNP+znsur6yy3rBpGtcIIW4yIJnMH+qognrmZkZjt3X1RcSth5zCmheGKU0tFaH5AdC+UUzYqMsutsc",
  "8L/hFGMEo3RtDfZMzSHs1KLCSG0DD450XS6y3KPFCpfui6NNRO/xDcMoUkJquZeRwIXoY5W2iAvJGaXkjsZ7UL1v8uqd",
  "3EWYFjXN6ondzbO6RQ7alRe/Zlidr0feAxWqmPoit5ZLp7qaOIyWgGcGlvAq9YTkIYKCTNNWmxUjNXk4tk04IsdWTPJ7",
  "MjAJLtrPffYt9gm+CMdE2DHeBqeamLtLiANVFwKOxyqRsSMed7CegdO9aqxAwiMYZkZgCRNdkDRhngybVVhhF6vzHYp3",
  "zKvTyabQeKTK4O4mIRTpxwsRS4kgP2HhPeuDcAQFHjUjVA4JT3Ri0SCnxRcasNSmMOh3HAcg9ulWEW3UAkdf55NdsdGz",
  "iFO6HYt5yuOWBnVqTqY6wsBxn2t1KJXUAJ3e1OT4s1k+i0OWJrPQRVomqDiHq6V3ki/3SAra80RmDxwHMMmZemYlC7ol",
  "dIM7bsZctwQqfPNucgjWjBaOCApbZbgMqmW0WkrS1RthJyuY6wbTCa2zAjavTi1cs254BAgpxPZ8Dgq4Lsl57kLIVOfG",
  "ukxjpZiJWXDOCY4dWUPSE9eLy2zxBDPSWNJepFJxETtx5Nms2KGk3VmWZRQTkDePvy3aWUrKlLgQBh86TLaoLHHSa6rC",
  "UuDzFqxllcuJbyF2Ck3U6F1qYbGNEo+gAiJVbRmE1yrIyACipD5XWbqF9+l489LwmrjZE/5cFoEaBV/t/QoT0baciI0G",
  "Lg9TkaRz/akzG7TQ4KiSdDinSWP4CKO2IlzmR3+3XhyQtSmHwtjkwGWBY1mAqox5XuNTY8EGcSgx12aTZgUPPaZgDUo4",
  "ZhgoA0UJlFg4Uux0MOodVLPZZPz3HDEO1n/UYDZNZ2QzV8hJmI5761VNKq+f6zU5bonFKZVAtV2xc2KUnGZRF8Y0INOR",
  "WGCZatL3nZ5YDpneM1hSEs/+LnHGG+w/e1PjY8AZwbcV28dvofRe7EOXLjcCh3Qgm4zutKXv6NcZHpPsPTNQawEZ9WZM",
  "bH6XbE26lFazLgQuMUq1gVkdsywUwfB50vs8tAOQ0T40ruawpwSaThmxI+Us6UyN3sdVu8uuEzVvZDVXtMdixxc45VOi",
  "G2SP8RU2G+2pil2lpFyBUrtQMRcPjCepdXDYiphCp7lsbOophuw1MM6KUeRSarmmm73ZY+UNzClSCVN6OtD700QMuYQ6",
  "lEOXNWDERIrNXZTAqVV+GjM4if79uc4RRyTvM1Gk3ghdiaVjVSG9uyXBA+P1JJ0GrpbSDwPHAZ5SjxWiS1JoJms+54Q2",
  "cNRH2Mvy7xLr49TmwQEzN9U+F3ylkFniuqGID0Oc9mocAFn6g8diWim1WPqm7VmupRMTt0pIwh9sTxugRlxzpOyi/U3u",
  "ydj6z+jjPknOk7wXtrtssCHdy0X5VS5a3ulQXhILm637BglJoiBk1SBXLOuIApcLx0/9jj6aqwCXLWp45M0t2ee57xRF",
  "BBILkwmVdxDawnjY8Kn13vbz7xU50uqYezEWZf+kRzY6ZNuyEefGNYiQs6PEgxKmQhXq4+sg8C0eHM6UOJCmbKRRD2F3",
  "lIukkhoYC4q4dzJMnUxTHprGOUzNaNXmZAHIVepY/MZ7Cs4Dgp6fVgVaLxYPALcoKxTtkKRS580dV/pKDwCpTblnCTpu",
  "Yb3YSB+xhdXQQjqBaAPjZKRXCSuXeWDasOtbpABLyNphlQOQVCH8yNFWJNzMTNrbu494mILF0EQg4cJ0IpAJYWAozqQo",
  "hCgmZuiAkzcdNyQL41Z2M+CeZnGIbzgAK5f0ZgS5hx46Mwk7IiXHg42wTR49BnChZEZGHHWx49LrZVaWw+CVq5sopnwF",
  "kbeEHbTbWkX1u1oLpv64TOpoS7s7dMC9VCW/Tu2QCWvW9diSuetYqtZjZev1mFPg9IavEilmGRWBXdjxkQpfSrtGXHp1",
  "xjeMGh2fcAT2wWoaVAwKTjlLKx0Yhy1lkpqfx7YHcAe+ok1Vxhqqj7sExlVFLpsYeoWzWvjQEHRWvm7aANIW9jEG+W4L",
  "lpqvJYHMThNl5IswVjZhuynEJIOB1ofHKU2ShEpqkHtHPeyMsIAWowyGrTGLAWBEM6JIu4UK30d7VhrPEV5wk1p82TnI",
  "oDlsElVy0QL2h7gHT8OSsRWY6jkGJ5ZB24bwANzC+0TRZm+vklRPqtIvylpjsyCkmEc/jRxHmUq2lUJQ/7LSAI9wUSIf",
  "ox6UoNyGVCZJDF2ICBMVdVTfzoUTe1bgS/38cj+iGnveJwyGXcgszua84yw3GimiY0huCAEPfLqBbCaCaI2YXdeLpsze",
  "CER9LZTsCGyLhrMuyHzKunIfBOuR5I5tFswY4MHmz2wPkpqcdMwNU1afjTF4nE7HA62n/GmzSgQXUu+uRm+lAt+sYNYh",
  "Lq8GBrnocq17F7WWK6hcqXi00TQadDrwMdg1jvY6HazX8YmTgjc0+l1Wt3OOKH46avkrmd8GETQGdmPGIA9PUS43w+3e",
  "o2fPEnNDHNl0K34GW6XfFlkwqa6wy5f7uFibjQuKrBd2fRlmGLgVe5zJAd7R6KN1erqWFNawBUMkq/JLPI5UjG4GFR5G",
  "9VQLZG7AJqGVx9lweNakrCgqHPlDI/Mxz8AXB4XiRrBSIzIBQShDVcOrb4SDXDpO06SnzUpsXODB935fBMZGAwkxeLzD",
  "NcrcVSycelcCwBEu8wH2tY4ocyyKza6OPeo8sGACtQTuo144k+Ou4sRNqkk4iUli1eBxDNj69nk1inhq8zNPixaCvutg",
  "jePuXt9icNBpSB0mYiJjBs+7A8GoR6+6gx6ur6/fY8mNSmtCfzYJG8fi6qZPUqQs24r//bE+jrFefyb59xf/3av4lg2z",
  "/91r7os/XXvlT1ff+9PVT+ffOzF/5KvF0x8bYG/uzHuG2MMX/593jvy/L5/5v969dP/q9fs3tt+/tm/x7LGFs++xV/1X",
  "by+ePc8Pnnp98ct3517bPn/ktbkDx+Y+OHX/+h8Xd7y9cOvN+X135o6cv3/95P07F+5fe+PBrlNze68v7N+3cPz2/Ot/",
  "XDz26vznR/DDxTduzX9yc/HO4ftXt8+fOTH/9rn7N96fO/vRg9OvLp7bsfDJjrmTb8+9+f79mx/Ov3N+/rWzc9ffmr+y",
  "b/HStcXtu+cOfDy3+6u5s8cXz55aPHt97tXr899cmDtyce7qzvk/npl/+zbGM/fqe/evf4WfzB0/OXfm84W3jy5eOTD/",
  "0Qn8vYDXeWMPb37n2PyOcxizhxMWkL27Z+AzZDTdKMhhPSRsmxmSvkBwce4wYFEJEoR9lRrMibYW87aQcOfUYEv3hfCq",
  "373OnK6qzw0tpE7tYgkw74bBWEMPOvhpEmXeeMtnvJNVIgkJvCKoTzQpAkN1aMyqNt3O5SGcscRFFokLcGVWGS3oXaMv",
  "+J3VOt89Eybtu8doX3iUbJh7eFWunAuRliy310Nhxt39oskqfbbIcpgsA5FZMa09Qjg5SuqxlL3qXf05lK4DUBUuYpaE",
  "UP9MVYSFq9nOCgfK8l1rMfMYzN1jjZ7VlQgY6eYwcUgy/ISzrFnlxtFQ/Vs4lLfgaoLxhamrexHzAn5ALgSxVtJLD8ni",
  "1GE/w86LGH78og8gw8tPJS2hh/EVziyjCOREVnaIxDumTAYhucKIccwSkm7oPuXRgoWHSfqZzwrfVHunWmLfcS232XR8",
  "pxpjW1Pwq/r7hH57Wb86r8v2+k7k1qR8x5+OH3a/4vVf6e/P1bH7mr+PdSW/posP+fts1zDsoZ9rGKf8x49HCZkqskbh",
  "WoBzSOf/dGKn+pef0jVn9fVxff2lPn5ezdGv6ofH/ZC+9m3L7el7/CPO+67hV/yvMJJ39ZOv9Tgb0jv+Wdak/Cv1U9/u",
  "hsovPtRbvKon2ox97TuUv6sG5/t9n/LP9f/j1mddd7BJuOL7ne/WZ9/TQ8/4p7zn273bTJ6v9Gu3hdvvm8Rr4dw8Y6J2",
  "uDbn/NVRN9t8wYNqxP6On4Td/lnv+cbtxzUbZbf1o36idupiG88b/qFn/YzZyG/7Rce3B3yX+g/9s97wU2Q3tJbwd/RD",
  "m+2vNVcmD1/5hbbXMVm97Wd1uybhKw3vlEZrH9/rB7aHP3d95U2eTVZtdfZrtGd8G/vz/i2OOFFx83zWvRd/e1p/H/Ev",
  "eMI/a7vGf813tbdBfuK/tYt36JVtBx3XD0tpOe6H97nGbF+fdgPmmF/VK1zx4/nci9Y5/1Ab6jktrh7kxrzd8XewwRfb",
  "x6jYxWfXl42s9ziWYEs4E1rJYglgUWc2Y7OY7HpsjhJrarlGG8h6N0yG/rfGKEkV5vrSPLJqNe+8ye7sQUAF2SKiRt5v",
  "12lNQiHDuibS50Vqp9QcVd5lPVu6sENm6Pg2EiGhXejnWQtpJToCOmYru2g2vuqUv7X4aFh588m2r7OoBWUS23dMtE+E",
  "BipxXSZgJvZJNB88/Jt1o3lZLV+ikAoGHSySrbHIUf5dKA7iXjYMvo0FpZGYqIKAn2BQoZ4zo2H5XfFomredlMy7a2s/",
  "9ph78bw5Q86ZCnzfeLawtsiOM4RzxcRtYtga606VdDeXK7iRzaxDhwDrhopY91O/lmNyjJ9rLq/RVU6FJXHpa82zS8IW",
  "1oGPfuHzZVbxhRITpvQ/XKYs6mSuJHZSEWzdhcVx5pKKFKorb5a0m3jK2tpkJcAp50KtJ5NiTKa3S4nhLuuzjvPp5F7R",
  "/+1x0UZl4ZeJcfa06Fs5p0+Z2BvhnMFQyZhhVdfL/Tm8UryZods9ue8gTuAIf/1YuQNch0mmcDpagKSIl6tRC+mrywxU",
  "zbOs1AKHYsD5XZr04yVaZcT3HtfIYOcR297dNuFczS5cRlZ4tAY+sdvweXejsyOYRjXyLiEYdUvoB4nCjOnVhxNjxQnq",
  "NDYGrUE3U5PYYsyy0ctXTIilSyFsoUZc92BydPJ9n9QMaU49Bq0mQsuuY4Fx/BisN+hbbZ6P7nJOmS3pWS7UyBSjpO3y",
  "iZCD9Qak8jWMTPfQiZOJ1Gj0u7asGR22psq5WCOp1vZ55lBmrh48MYYEFjmQW8RrqWkHzEkatbKSSV3k1NaqzLGPR7Ff",
  "/UYpa90+mVF4lzgV94NVEbv1UDdbAwx0vR8vRSKZVFWqRlC6ilFrtd95ZBQ3VImDHzSMrVNiUDBuW1cu+FelnhwZeVxe",
  "atAr84T0OBLz/5iOUX1Sz8Vyeqzbbbs9qEiE3mOyzAhYWIkxo2fZwEcd0erxILM191xJceSqAvGdQxIZY4nbC8YIEHdq",
  "JTpg2YjnRZkIHEZHNZ1qW8yqU3G7kki/BD/5uBa5lpTB10gdFm3ZSFBCPjweIwgsgqZ3qzveXbHSWbhIpJ+aP89ZEHc2",
  "qnq+z7ImZkyVqCdWAn4M60Hbnj1KuBBlQMNUgR1Wcm4LChbjBj9WOETxDMfaQPbLTuBgRQ6V+CIlkYBHBiZYfazGloWP",
  "spHRgVk3vp5ingKUth7xsgFt4XCqy8ugtlhFKUc8wdQ+njxENcedHrk0cz4Q0q1rGCGvqZvD/but5OYwOESzn3ocVV6w",
  "Ho1MY/224CXKrXJ8Fp/oZDgUccj2Jhz/BwO7xviVqDDOcEOuCzjFo9/x0QkP6GsMytAcScSZTOEiQT+rm3LO/WuGiZNx",
  "sXOkDQtKi5tR+zyFdLpENtdSdPerSmyxBzxB56Rp37KHTTIeK7wr6ZPq32jaDB9eXX62WzAezZNTyCzlUKxclG8EyeYP",
  "mHnO1AsACow0rrH2TAk4LnyeIR1MlSDCTGzJZDZm8C3X7CZtYWbZ3LsZWCOClaE1j8Azni4thd90PA6TcVBLNo6U0OfE",
  "go/47frMJ0YFBlCrh43W+FSYO9ECMcvp0QjBJh+FX2ksD6qHNVgO7rKsfAjtHgNw9oyKFeOjfBGdAj1k2XsHJLM7G/8u",
  "+Xj+osyGe+hyg5STzt21oC9tGr+7J8dLu+ThBMbUqokgCSY9HLchZJOBX0rwb2HRYO43z3aUDnqZ8fQKlc0asB7DzaOO",
  "/PflEa+xXP05bRWrqH5RHEKx6QOC2PVqU27PCM+RuZDkM3HYUdXtSr8XYsMgqAadAWdrnGGYDIYSN5dWJKGMhnOth8XW",
  "WFxuAjyK1tvFQhWXDFwMdrJMZRrkgLKmHnGyrxhoaMXGcORS3oVFb6lcHesedIQltgqRgqoFMNlhy1xSecYXvzbNrxPb",
  "4de85SF2IyoaYX44iyKheWgokwwoaU6nSgekxPwXCtsqSeIzPHHxeKnDSjB9YXnKvvrGWPko5yRw2QVRMYpqusQSP6SA",
  "glAwzjyl7ox9n9IhkslxfWt1VKXI7V3Cui2Nz0xOiXYOHBoGE/10fxtsN0zOtGcaCRnFCUywLLPEjFvNjOHaigkHpJgN",
  "DY2mTu4qoYD5tbZmsIknGDV2DD2QL6c504GDoNHryLru1O2X+qCsrOg8VzldvI4dcTBVJoRlJ4rrV8heCDlNGttHDjIP",
  "RW7tqjn560oJaxJ0Id05UiZHHSJEIX/WgwqU+KjXonbSFUIVpc5DM5iT/DeltKnHl3t5WV6iggtrBEGtUOZhiklx0tKE",
  "tiOIeRKxpwjLbZ6NqByVBeHvrVOTTj/3CJ5WApbJuplxoHPX/4/aW/THfK4rSXmRtl7TkQyIfFmWIjUr7g7tLvlj4DLu",
  "epBQIDYZkcESsm53LnGuj3jmiaxZzDrA1ZjznjD9HSUNaG/M5szmdoL6oATTFCUsdDX1TpSHs2HaTLOwt4Zkvglb2gj3",
  "UuLPh7D+wjpp80R6vLSu6+whJku1W/qItAUMZCD7qqOCcsciSZilK4gIDDTGXUYNZ6A+eqQhcyih41VLKWuuMKUQGyXE",
  "XqBhO+2jjaUvniZecjaZ50D2LvsBzA5qeRlMRYlNVP8+a8LwNKuYLULAZLxBBawRo9LlQsgbRMPwWtG6cteWGd720wbm",
  "zPJBCXd9pCxaYfdhZ+fQ04y1gjb3bMvn7XI+jRwbnEnBEutwFYmoSa3T0KbSvndMfpgYUpu5U9exY9SY8A0sT0ACZpeU",
  "NjRTbBBawYdWuj5pkkQH7hjpqlsl0RxmwzHzXObDIWueQ640LINhcVUYMJieq0jDwcFrhAuxAZbtgI4sX2hgx8hRZi8D",
  "Q9oTF1IWMATWKVXHgbFawIIXuikMmvEs+fMN42Tyw/kzFDLRLCUyYmodu9KrNVtQioTpCBHCO07MWAzHifg6yijEiMX8",
  "mac39D+f8YQ6Jgfx9HQJ/CazAdOx0CAby5jM+tIK8hDi2lR552XjQ0iBdWKCRIxuKYpo68MrVky4rivyDYbsttyf9Nnd",
  "T/gMD0wpSgxyEAqiTz6dElsJy5zxO8rUxjIWhPPENencWMYKjElQMYVYLbwxAtdiQWCVWfVJbMUlsLjEswuMTdKfVatW",
  "kRQtC6ZZZVV6kA4zQHtcZCtO2g1gFRV4g1ECEptZZ2s8kA6Z8H1X1zwVe/vUCkXUAtgXowTWE1Z+UN5wTc29pTUTl6CO",
  "oMRsBY6fkpaRMT0yfmJdQemRKrNKJUF0n4GWPMPOQw9p7hkV8fYVBNXx3xF9LBuIeR02mDAavKgfu0531rKZq0qLzLj8",
  "YEuR4snBxKwdl2svh59t9kVKK5nOMvv5ecfWGXYMMcDijydKq2ArltL8vHJf+so/RcZi+0ROz3WaeP5iWJFJXyiB35qL",
  "mbKbsIDGOFDVMawTOVRfyDFHstw8dtjtAN68UfoQrN1hHAnWpvPoaY10xUVpPqw8n9Bb/zOxNXYWJ43j2E0H5ikx1ONy",
  "chifZrLBEcg31RrJioTdGfewe/q2z3Qs2sFcup/Ly3Kq9RU/NHAoB0mYVBWbNPTktmG1HGWTh11QBN32/esS9jri+hJj",
  "VXk2WmTRcwMFYS3wZQZPJzHmgow9IyXyzgDjQiPYMguKEbF5rgEhY3tLaXlrJ5ZP92OHJcEWkAXvgSIPF45zV55m3jb/",
  "1yop+l0yMhGBO21luFsMpVai0MWDbX7KWIkie8wQEVp9zIoai5dVlWpIqrrMuBiev74ibaxhTZwJ3ewE1hfMDPrRWSeT",
  "Zg9sEoifb+7soYSmiJPONeobygYOmeuGwv36bDwb/BvC4kJvlhRJWfUZledq39eNemwOVAeBiDpgQx8Bn4mF/iOJt9Xh",
  "ivVtvQGg8Pq+qpW2SBgNNgl+4rDFaqPk90fhcSSCG1pJB00WO61KS0F2Z48+IisbDMe1MvBsTFZrwXO/hMpSjzjSScfh",
  "zfUlNkTH+3gZhZiOfbxdCRrzweLULJ24LAAOWEFmGo50jiVZGWzgtTDIBFzVcrFjXKKWduR+MZA47QOCDsi3qL3KHU+k",
  "cNkrz/wZ0zn9nP68ZwzNXPcWQ1Satpj11SZBWVS90mdqpKn7pg8ErxP2m8+wtl9lhXZRgtSCx03vEmFsoMLVq1YJOq2H",
  "uxZmHhMjhmLXMZsKOQvco8uqBkFvnqTN1XKYYfYqdEzqtSl23TITxkdxwtT5UVG/7RrJcdMHXrMR7m67PyjhzWWN7RgT",
  "EqOqe5E1l4Y4tBy+CK8dlSXyqbXSC8KesUPzNqHaVwmERSWcWbMBK3Y0fLyhmN0hGGQGztTJVCJTSw98JjbsHG3MgtpW",
  "dPC2ymyy6VohB7Sp2DWFMkAuTuvCQ38mT4x1OOs6FKQhkW3vS1DDjgGpec4oF6MAYGndWONEtbCzuJRYiQfCxyoxRIOC",
  "+0DNx9Wm1Aqm+Nt67qHrLs5KF0P1H9KiDReHU+Oewu7iZNIYXw1sRmlndxuy4VPSInIHWKNn2+cNw82uClbHbf6ZeKyM",
  "yYyXAQ6eJHSW5EC6jMR4ySrAZjNmF/bKWAE0Zw+qJZ9ulTb6Ms8bu7xp/Jps6Oj6zSrCJ1tl2UgALyG0aFPdkPg0QsiR",
  "7kqCrLuBYozCSAYO5sU1Wu91+8phwQlLsDk6MX/L1OkXJQVB4HCr+GKqPNXK+vRJFzRj6zvGUQRdG7PWf7XxcTKduxyp",
  "iO4Ic/Rs7zhr6YM1Qlf1aAj6KPBAw06ZfTB+WzIf/odP/8Ob/+HUf/jgP5z+fodY3i7+P18lgVJOt5L+fmwdNqVpBM8p",
  "6Kk5RJNYzSCuOnv02349cdeZ7ZU4NjQhaYbIoKLUrLH1vuDPSlQXqzjl/lL2HTCL+UbHUqbolp7hIbxJpq4repqvNUsy",
  "8R3YWLK6A1+VZddxCd4qFIHkBwrLx1NDe/ul7NkhNi3LGCtrDtuA55Ex79tbWiwoYS+vFO+Dn9bJU0jXOzT0l8GtrPcG",
  "xuzxaIXnoWPZjwMtFa7yL34x9KQKsZ8Xwq8w/LsX2XShJJdgvxcME7bOixaLTJR2d7Axl21W85RS8TaZrjAGNtZIGMea",
  "p1WI1SRVLov4iq6IieiCsUt9t9P9jF99TQ6mb29+d0gsStf1073iRCLv1AX8ewO/v/ztbfExlbxUYkW6rn/JY3VHPFM3",
  "Sjapi0M+KmNy0lO+8dxJ3+0sf0sOrKviVroq1qYr4sDSSHndt0cdd9V1XHPJMSU5hijjtvruEH5DPqxd9pYlj9Q1xzjF",
  "rzi+7ZqDm/rbOL2Me+payZC1u+SAOu9mg3xZN43xi1dohPyUGzPG4lme+LRdmDkyTN1x73sJb35en73qv3L8TsaXxc+R",
  "lWr4XI7+tmbdxmyMYmIQ05P3ai5u6Ht9Fj/bxZ+IicpW5Ia4v4xD6lL5HpfdqvnV2iv+q6N+3dx1Vyt3vubfWpxb+i3Z",
  "vIyfCs87Jo6q645xjFxYN7/9sHzGda3oRTfe25xTx2jF9bjlVt+zkl01/jGuJeaU66Y5KOfvtp57WfxhH4o/i3Ny3D+X",
  "fGYci1sp4yS74yUHIyRL2CHczdby0Hd7HHvYTnxyp+5xSQxr58Ustru83/lvPypnQ2PRm3iJOI83J6/Zq1qj87yXW+Xt",
  "elt/ncnZdX3tWL2w5jdNao3dTPN+1b767nUnGzclRxclu+Qg0/jEVvZayVrGtb3Ftynl/qbGbbL7Bsa0G3f9mixa907f",
  "O/f9/nsneFI4VjD71zjErpEVytiljPdLLFy7730lZq0D3+8j0xauMz4szzLmP3sFPz0hvqod9rPvd9676D5xzfFxnSFz",
  "mRikXtGJdZpf4e+dGBXZus6JP4yfuCTuKTJric0Kv/0Gzz+ArxxLGO6M9+Bd8JxvyKoljjJxmd27jhGc5qfwiVP6GXmt",
  "7F3JGXa2nI0DbnwX3HU7713Gf3gHjWN3yakm/jNd/6XnY/Pvprdx8yZ2MWMt22W8ZrwTmdT0bpyhc3qfL8T5dYFjsTkl",
  "Ixp+RoYwNwd4353i3tqDz+7WaIyhi9dd1kzuxgxd4BtpHsQCh9/rbYxJTIxtp8htVq4Cr7soLrHdZDIj65jmnk/cb3xm",
  "ZEdz1/FpX9lMuJXGSN3TNBrHbObm3nHSnSzX+DNKBlnjPMuZu8tZraXk797n7n132iqKUe0cxr4b73/y3jecYUoiRvOK",
  "1u0b/NwkzObcJPkrMZ1d4rrb3OOqc44p7xtKTPHYYHM4TVak5dZqRBnC1UPQwth00nQ/tXNZwDff5dqwcKlzumvDLFhZ",
  "MUbj30i+YLoZfko3izszSZ4JneJybILFMCTbJSArFq6oHYVFa6KsKmdZhEs1To5bGlyeJGNmLt3tkv8etRb3FGRWZL+l",
  "JtnDbPSakqarNrVqCPCJjYSAnoMD+BgQh7WrLrpr5DyuHY7zu9e5iKZgTR4aIh7hrvMi457rl7y8n6fLHfyizbdQOqQw",
  "TM8oqZblhCglw2I1mfy474phJGuYZy/Gfr3xVy+JY+ul0krqxZa8mySZ9jDTMzE5zJa0YClhuuh2jYw85csmrV+MQSUZ",
  "blrDpPJEIyuRjNZ/ObDMO1xUmvVra0aqoaEzLPO3cUirvCQqiaNuK+s5kiPPIMOwQ9qbKPpdQhst8UNczuBZVUfJrPe8",
  "TJi+drjN6vfW1goM4kW74vHhcpcsUynZ+x2pTDA57ls2TfVaivDVkzzK45LtyvBrkjOulM8zughWEhcEjBQu41fGWouR",
  "h0pPZ4gUiXzFmzpFGRMZQ8OOpy7xPL2EE0Q/H4rcMAY+oWCvqpJZ8Ozbl2jOLE7qvf4m72hhQ/jf65rTykf0LDTsnLln",
  "IFzsjJzlyws4dfTghYrpmMdWj61NliPEEKFCqIbV1rsWD54cQosUWbGSx0QtQxVCSzozcjQx4BVj0ybiy1fIDJenlT4e",
  "syOZ4gq1oXeYWJBZk7ot9PlW667kfsrAh22yYXDBwhFycn1HEJXvelhOUS9jlQE7y7tN9vhwD3neKuyssSEAyICmhtAs",
  "cYCFS0Eq5e1QYZqoziCwOFBUxpkCa7xkscdM8ACmXJ5Rm4iAeaPJIcB1qHdwH7XJ5i18hYwUSODJ3FjO0TE0oiJJFqjy",
  "zhw7xrm4GivxmJQ3X7rkG0wH6i0IQev0BqPDZB/J193CWptWSQdnH4olZW1sRjhBh5IoMGWi2IChEQVyeh7CkjCuAbUd",
  "lDgnBwmjeFovCZfAF4TArXEUW/GmIClF3lhbG58cwhtdisOTtDhJdZ4qM+uT42WCz7dPpH5IxEZldcsqDhQdHA+qhssd",
  "uHxBHFiTagUDx+xAe5a1wNN5Yv3v4nVDvVN2sCRMWbFvVT9aVE+BtrJuNlg+hGBzfl3S3ZHsrF616s8ZQ3GcF5NDyIPK",
  "PLnKa2srxkoioXLPZ53nOj5DFfiGfcxNOFYiBqBzw+9YuWElsWCRM3E9pWH+AzBFsWF4jHtYuuTXPHa15Qyk2YXyKTPe",
  "Q8W1ehj9D6xVju6wYgKb1IS9JARhj0Myv7G1e8cBSBkxItK5Y+qzRIXXpoY4fQVfXfsmfsDhG35UxlsmutsmAnd2+jZ4",
  "jDS6XIriuW3HDxEN8wKBA9BZNr/IXMh6svVTvyyR6CoaNmeORqA+GFYfDOtBqYICn/yfNYJBi8d1CUljhC1s/L6fuIPV",
  "4mEK7qpjUd9Qi4Y/wZd/UGsNYsnW+AMgIBqJkWgiYuJhrUYkpUBED1EtEdWaeG9KIL6vOZMAlcj1sZITLx1sqCjzXuA5",
  "H13h3ECxU1XkE2ro2pLp7Yl1DAVCt2Z2DtFtoRhBR3OfO+N+w3c8QbhYLrkrtWmxRobGHaNNKMod2T6+mQdjoSUqMmCj",
  "FwtOF75bqDFkuCmxnnCk5hMbR5k9iw3wLL7OsIx7+gQ9DCKINBn9MnaHsm6jBhBqut5CimLbcqsO19AVpvzVtQJD9Xid",
  "ItNDNXRLGbDk2HfpJGOOULkqofc9fwTZUbN0zYMxkHKqN2x6zvdJEvlNlhMkN0xnBcYuIjYR17BLJKW41BOoqWJZYrmm",
  "pDpcToHTlMBWdqhxrwmMQmh8S+EbbeBmviBabGGxYZaGcWFSOzpjZHjUjbjYNIVr2YhvQjPpYMGb7dzsJqZ3CNtyiTnf",
  "NpP0MR6hoGZxjsFDBlHH4IdGVmg5UKG5DHSVBUU40CI8MTTKwqAEInmOVB51JTy0cFwc4vUpTdbCd43DHZ6yRl/cTT4b",
  "r9SYUYIm6cAYUQzu6ul20oHvC8Y0Kf2BULjKptPvlF8H38PHWlbqYGAzDwkrfOdW7DffvAcLq+1vRlnR4taxEvfQqEpJ",
  "AqQkmX7se4pxSwukqKxUbQgzFqaACrRYIwo9+xhk3aj/WvEQvR04elzmHzKd+Mr3iuPAD10dX40N10CrzO46SjUMr2XW",
  "JDk2cJRvcA3pat6+w6g6ZY53CJaUwLhii5GRij1ZUqYOz55Jq114YkaQNWvVhafWAibQYxxfL7DNY2JvobZsDs5nTZ+4",
  "aZR5TfSb9cPTydfG4C0sUSXxfKZfGpE8pJiqwLfDw/IRanR3gbNe+V072eaJPOpxbzY28gzf6I2iURJNp6VLO0MjxoNA",
  "fYJAaFt3Zs3E449vfjz438gK4MhaBenRtuk0Boa6E1cgPuYgYty/0dBeHyb0A+8EYaBjJdtAIOIJMyXWDY0n6ijX/8dD",
  "rHSKiJWaWDLpTeOnWDl0fXypC8a5cUlEwBXnFZ4NNHFkGfbgsF7n2WBp6WkfESjKHFEw9MYD3w3V26mGz1R+3sxFD/bW",
  "8eXP4NW+iTc+9tRQ6TJb5dqumqKXoLBNsHiLcmcpSIlpAQyqNsSYV4DOhW1I8XLQTBLUrR4P6/Pw1F89s9l6wK0bWts0",
  "oJ218kQZMlgpD1AGZdn3l8+iGNaVETYpYeFYS2QtLdlivhrLOa+xoRafkXlrgEjCTtxElaiZjhH7yRweIisFN3QZeuxG",
  "YS1wBG0Y2pMeTSgaHvZHjKjlqMJcwq/0u2cqtXxFMKwrle6z09UkSjnVkvJG9r2ILuJq/ZEYZQLz0fRCDkLUsiy4CN2Y",
  "2k3UVqtVoinqg3KNfcEZdzgc+94oiVDLFnIwLpyly01g6euENYHZ0IrnOUeQQBhZOASPNDZikQew5sTQBRS5ocG5cnK8",
  "PFlj88/lVpca5tENQ/9iWCFayAcYVZ5uLCgjI75Fl6hcS6vNSpl0fPme2mSQIiDZDLhKpSP0j6/D0SNs67lWmFzvkhid",
  "pcSOZA+DcPVwbL9LhjvD0nuSZzOmsXuFA1DTNl86ScPGo54swhGEwhji/91uUjLzp+yp6js411XzqpGJUEiSMWv1BJqA",
  "dgzz07oWb/Y1IXAISuh8sXnoGnkQnRh6XEUqU8KllAzrOwtffMScd1h6izgRKVgi8rEeymyZOoSE/nWJjUs6Je9+HDkc",
  "JB0V+1eyU1b9CcYmbgvc9xnlkGWjeDrhChaMRnrhOBghtMNyRs86qHK4sujUl9e9SJvLemdTrzteTOEZo8AhjQRas31C",
  "mrvCoCHmnGjdNoqhQn23xR3l6jJ7pd2nLc1tQER2IBONvIMq0tPoxAJpxJueKBU214ayImjlEIJY9ERnJMcNkuqNkDIu",
  "F6ZlUDNMyxwx3ChxJ0GcJUYsRd9qMimHDStZdpsIwmBbO+0Ua7LptbBbyjL3shZ+W299WWvoSMQ1bUQpkqaRgE+VUwmU",
  "PERxj/gmHNSpGI7zUTSdoqANPapD/Lft2KlBi6rpxBkW6ZGYixYMNb1ieDa/MpsLHVw8cBwMaRiqmBiW8q80R10YHoxh",
  "axx3bY19pXNBBRioB3phksyeILX1zonHevk+mVhNBVwFwpxwGFxuKUOeKSrmwmlsl4kBkTyQouE7ysqUkCCqxtrNg1j9",
  "CR8Rx63vQv77mvocWJFdFgaG1hDQyNi5gnGitwzykA6eGOYklg3LX9wSQhxWTg0NzlXDmgo+1tEgOug+18hXMjhH19Hn",
  "+P7jS4CORNCSSd4BCF0pR7GmgxNjQhSBk3JAA9KYi9bVQKJm93FvZfQEKFnw0AzGJYNCh7vBxlzJOAXGN03glAiqmanj",
  "fFmXFmzw8f2eakxdgWrJXcsqA1MV0Nz2boqlJ007Wxlsh1JoWkVRCMHvWcBq2chD5nYvG+H8upOsaaD6ardcqlftCxl8",
  "rkZHez4LStvbQhGas1nzfnlI5CUQUj6NJSZy9cZ1uZnAcwWKm7EwP0gshmIJHFZkBI3hmeVp87hRvPu8ohKnCUTQmHUc",
  "Cst5v5PqrWAVHEMGjTUeGkoeAs/8hjOYnQ6Tep7026qQt6MucQyp2NJkFXU6dVgAq/gDcXPsz53HHn0qA9Le1bfEphIj",
  "EaBTr3TiLeLiGTOSIe+p+ptMl/4QnGV1VabQWgwL93arPhqFg5LVn4WTdkASfde3PvDk8himzMwns31cuMEQEU4MucG1",
  "S2581ytC7O5SQdb9w7wArp+Atw5rn3We4Q54jicRYWRWgen7umL6yBPFvAn8AhNadTj2nqWdkP4ks5NX8YEwKHmzOb9u",
  "DCXPaNJzxQXiPxdvnkwhiroTA49+VBhL1BvDzauRlR137PBxqEUP6Ma1G4des/XscLulxLrPki10WtXx9YFNjYPtO/ip",
  "Y+ZyKOIuC5Hw8r7e33Xv6FnxjR4lMvB0GFUb09azwkFHOU1jxPtigRWr0DcVzE/75zdjmzxHwhI0JsmBU59paw4JAfgZ",
  "d46XbTgItw9aJDAVolRd2yNxb7qojDKNdghmTcO0OkPLxVZ62WpMwRNQqkRrmotK47RkP2NW2dWABqbBTO7EnmrpHXd7",
  "+ny+g7BIYmNP+u6MQmmjKHrSWMZir+1bSVf70sUyXUDQMqne7jXcsSgMLfWNr3BCqn+2pERTKhUVlJjdlmlaKz70iomr",
  "mfoIUMlFQ6F1bgLOLk4q/Vc2sygL40IX/dEKOTioxV4tgpx0PFd1L5rqOMspMeppkReTRrFk8ZEHqOxLmWmq9zpsSu4m",
  "yiOoqSRaZlApDWbpYUW8zXqjgiYt71BKXIjsaWhB99OyjJKHcMFtSVLaJ4ahE9+JnJthGOoZMsysdL0PcrdxnIUlAk1L",
  "FZWxeMtn6chJOsRhbjWVRQvPNS4u2+w8zP6mAYPHql5o8gxm0YZrfM21GDp45P7puHkwW8VctCE+fsgZJPZQV8LBqKET",
  "ril/wj70kKu7svKtwNeSuUCYyFzh7RgfH562xWujki2zMxhyOaz0jVj67DvT9REBFje5niFkmHVL4My6YkkVBIlttrqQ",
  "Iuv1GYJPkynbVAF7jcsYUf+1yNrj/o4GlkNkq3h6GBEow7g8cYxOVczBhdfg3BNu3WiHe5Gzo1Yrb7aOZNfFqyisFjYx",
  "KmADYFg/ioYM6NzahFlF2tTQTZL1b18OGatW+s42AYU29K2PekMnUwmOstjU26eqcYnXU/2XIVssS1z6kJuGFv+Q32ml",
  "q9IwXLTneiocCbu8fBHwS59ZAb5+I9PdFa9Y8RkF1Fd9cM5cEyiYByVMhKe/641BBgfKt3asNtk2xbfKl09k5Di7hNvJ",
  "WStGT6P9psppoylwRj5Jq4dzOq5CDdFEDpyHynPNuHOV9TIcREl569Lq9MPdGzuie1rExjPhTEtPZjamHSsGhI5rh+LM",
  "L5+LkEFixqltSbIC09HtuOnTBYImpyX1LCu5LH4GKadh7FbIvQVNn/YPU8mllvudDWfzMKJl3RlkPG0a+v6e4+aR4CXF",
  "owIFYLwJpGRI1wcojGZGatDXhcg1KgsufFcgs8/YciS1WDHdF5FQWPVPRxT42jAwIMXJ7t6kkwU+MecYWQpLcFgQFaeI",
  "tCU728cqe2izdn/cmXV02p3DRAfWwiGFdTTxnCYrZciaS6NrLUghMepY9zc/XnYfKbW91U5J7AmM8lsvKPm728MQvtPg",
  "9P2HNHMrRU/PPBvMrVJtjzkeiKIacUk6D1UgQr1h1Y4j6+ZmKEqHqUx4MXZTpg5dJz6jTp/xOUu3CzUldq7wy4cqRGFs",
  "q6Ai3cjZGtYsSNaF+ltITzImW3C3uOi0KgNNI9FGzExzuIglyxqHh+XYelehAffIPcK64oSpowdR+MYiLnwaVDUDPuGw",
  "vZaF5q1TXNjvyCWQWplxescBa7gny8ok8yydzVVmS2Yzx7ihxIl5q7Twhrt7pWbU0Wh0ZOy59gxOV4+5Ql7KRAlzbAxK",
  "WnmotywgXY+lwZTutfxQGTTTvkjddip5SCyPzjhLRnryDUZO43NqLXLSBl7LK74ck9OuML2jZLGjHZReny7Pzc3D5LkG",
  "aXFSV5Sr9qSl6b7SmeO/s0ZIA1cOXaQQ1c6/e41E9GVVTOGJ4qLQps9KPIakvUOeSKZcGgoQ3T0Tmvy6MpmOr2YJBbuw",
  "huk2D+wdPqw/KXzBDesI1URBxyLBIGE7ESFZjLsbOsR3kNLTnOnuSRn1iGEFTlmMg0HSY2U8OwojZ1ryigaZc+0RJXEv",
  "tE3ftZcv6I6Sp1f0vWVtTGF0Pw1Xc9KPktAKeQQXoGto3I+6ALs8gi20JST3uq8rKjKXK9X8umQqaVKUam7i3Vjllttw",
  "GDmGNcQ39vyRmkn6WVoAebe2Qga4JSePSpEc5sYiW/qyAxUwXa6FSG3wEJKLefpvRTOM9mFNLVhTMoRVEL4Fw8W+P5Zv",
  "tUCNMj5eEjWNPGc9YQ1L5PGO+Jq8dS5VsaZs3AnXKIrJrj6qcJo0pucyqwBM/Qxa59whvmC8Em50xJksQFweVPBBlfGP",
  "DwFYjXh8fHZ2dmw6y6ZT12HnRd9WOPPWciWLbbHn3NVFyuGzKKNlNmObasMhEWy7ZvUvYV9ac8UBifP8gCpAv2H2UjjH",
  "YTbPdfwxLCrJKdzYVv9V5Z6+RwlOxEr+O3pk1fCa0QqmSsczs151rNfUEATDVjtNN0EPl/QdD694sq9kGj2FlcJFzLiQ",
  "VJn/XcsoSpa7Eygi0bfzwQxd4fulWt2wlhsHlquuL9TWKmDTE9beDwPWG+NOpxikM5iAcN3QLF45yVV2nHxEDo876DBZ",
  "UjzNP9Ei2Dop/g2HAJl0UEGkjTj4kQGtS7RnmMKNWOfJvio4pqIMhCfGieWTeGsrkUDX0tr6FI9FvYiddDDgIYNkmK7P",
  "hgv/8MoKDMd3IyVqrUyj06wbDqICiiwqUcfVYTBklZkclqzWnsDh1VC76yQ0dIcBLStou8j8LQPpl/ygeMfHcY0bdFGZ",
  "t8mymRrWtGzzzUOHhmjToi1DzjBGVYZGiz+Vl/9m0wr60Z1I/s1yBzayfOJYUHEwPFqgEdcqKCPDsitNMLFescNZeRoE",
  "yfroXmmdy6VxvgmbrVW8pbgyPxOVVP+WPsxgT4nYc4YY5KOa3tlA3gAzLFZW0Pl/6XglHX5cPOoW5CmCspV2Xhty85Yg",
  "dIeEZykA5dn91KrlyzpezCf1g0s6DNmLiZVssx+2b3fe7jq9qqKJtTV8FManr7KV3e/QTopIWMOjvB9PbFK19vj4E89i",
  "xrkurtmK8UhZUo1hYq8rKujRoGR5g/ysr4yh5C4ht92P/o6t5Zp/Pzo69fIw/j9Suh7q5F6CBle6llLmKbtacks7KzWr",
  "xTHb0qKCyz19gqVZ6UMLSNvvDJlB1erVNzXxnIuYk8o5EpStzANlZzt+3StO/rjHShjbLYOyjk/M6KkMccjzwnXbmaxk",
  "mX/Vl4VrbumMAKMpQ7sugOtTD+ZKYrutHBnrMB8q32QI2BdXoEOXjlSxnRZagnLobgsqKYrVZXdyvG+l3mV1mwC4ck2H",
  "56NgM84Xn1Y40OLO8AJ4FlhrXV/ng/H/umTyrgUdbmM5KEUxhBk24sd8F3VcP1WJJlaOqZHKMgYlC1jZosW0C5WZR/dX",
  "9gIcnbTp9XPFGA78owTF9XxxldzHwBI7vmgBvmWPLlAq2CsddWPphS7a1k7X2Bk0ZNUgqy3Tl9aypSRPlSMVlwtWBc+W",
  "Tbfxhr/G8VY4B3xjRc+z/sOTWzCGNaqHrMkrR8cK5wppf9GlhbqlDDOrWVK0sN0fm5ILJlAEJQeO8fPI+x6vRB4CdVFu",
  "JRGEYAJLivvXhcM1XWdMWGX/bq4LA/jOIeXnfWffhyrVUa6bbWhM5AZEUqdOghssSlyokX1Sdh21bj7YJ89m7A4uUVpZ",
  "qfQqRh4a+rzQ5WWoJx5C50TF6El+l8PlDdTDcMVYLRjylXQreobX+1fWuru8+EPDdM7ISMWxZyAt9RxyQ6Bk8JTLajxJ",
  "r3d4RhQVmL3p1VIVczEe5jKPG5zTM84GZShZYupCHX8YwqDWVAKKQSW0HZSdWw1tlWauOMT3R46r8Vn8fF0wBLdWoMFB",
  "Ba0QGWrLxj9VLWmxTJ3iq/VhTl7IcsP3xH7dlV/1QWaFbKIoHkYxhhVqw7KeMN3EFjO94DdsloI399ZH5MLSenpHbVst",
  "FyIOH5/kHoY1g0p5YLGho16ZK5WzHT42TNpDf4eUIhJ/wWfK4BBppTPvL3QruSgpufSxfp2fqRyQlSBfYB6/tlKUD6O6",
  "Rl2D4aciSAlKWrcNFVtIRpzTexV3aii0ARv5luuVt/r4zlofy3fz55e7XjgvBXtyE6BK3DfwjGZiTNJ9BFMpNM9uzGEe",
  "lwlAfu0B50Vb7TbtvAisXIkQeDWydMhXou88TBkLWuLLHfxAMAjtEVf9KeB/bOwfm0RVSc0fdoaezLIRD81zsJayezVv",
  "+KzLBJWbt0v1StfC9PCQsY5NDEMS/vcLl+bzeClyLvozV7la974+Y8RQkZ019vcw7lcLjBepq33UyYIy75bHvkQ0HXi9",
  "R1mdqiDmlUxzOTl90PdhrNhgPodhWbQSCKjJ3EC1mRiAWH0ZLETHX6k3pEtb6QfrK35HJangag1tN/Mx0uniY3bGocKf",
  "BjCC/t3ma1T5XhV1FVTOMsvTOfZZ2hmByx0ZmMdCwOJgc+UqZd7dzhrFTq2xoMtfKXUpXE3BhKyr95GaKHuVerCQSzks",
  "r/hxG3pDskBmRP35i2Fpi9MOt9yTIYzXVXxwhzSUGFfK9oqKDdMxbjEbZ9lKmMxR8oVdKjNURZUOE1gbJUfQrO31epZG",
  "EyW3nHXVZL5XcKGyUIk6bVhel1ivCYt4qLVs8LswDzZs6GmHiFy18Pu4gt6XWg4dy55y+EOEuuTZhy617wpFfgO/BznX",
  "Q1u6PjBMkUW/15exFGvMSmsi8r6JOwsq+feADNGBc2g2DgPOFb2XdVymXACZCnxTNTNet5i3bLgXD0x0qDqhNqNKCaOd",
  "X67LvIV9u76Wwp2tmhtnbwutVall97WoUprKTDkNUQE/OJZqqwgrm2NyH0H6vG6cqhxOZcWTq690JbJFpZy+qFViO3Y+",
  "Ci8AvTr0WXwfCMUclEMLJLAZlbwzoh0bXK2XdWslK7iQryUSuopIXuZ5XJlscHaL4AqWvVbeoHAdRHrWhLqs7Cmsp6Gf",
  "Z9d4hPkAm09XHDWs6ZM+dKWA8tFc3MNKhc3P4gA8kLKsF8LdTFe4uj2e9bHnwbNeu96OFYI4zNVM0+sOnaFuE5Rtf5UR",
  "LIs1C+WQ3d6EP0USs+ca8dCPZB7A869Rlrwfw71pQHaTHCUUZr0/6+t8HcbY3b9S7uX0pLXK0KFTwreGQauK2z3C60VB",
  "alyz6tJeSbxIJRXsFUdnZ1Vtasg5b0xy1m9eBQDWkVb+L17A0Rw4YJZPPhUege+5sjvU6p5VnRnChlkb3FRl9lhlB3GZ",
  "hOV+83n7pMKC7zFy7n17fu/QXmUSiP5CBaA/Yne3GELmmyVDCxFh6eKDa+UZlWgi16VUc1WeuSs9o5/2UUH8nLWlKCpx",
  "Hl/+P1BuFIetSzP79rQ0R2qlBaP+JCIVq/IQDFzGrETdVM6pkvWBqsPtWQagBaeSycBmOmkp89BvKm5mjHFoJQgW3raD",
  "XG3TS0TOrHq6297wGA2iixzeVoXoQz1MNtZ+mVt1c6vNXzbyZh2N7MnnZZf6iscqL7D1Y3KdGaiDGR2OrXSyzOJ6+JOr",
  "9HGNaWUTcN5C5fldObi7v+0vtuOYdnvcxlpxVQtDe5gGs8yjHXYVNdy0KhMzPkzHmm739Ns88lylhIugDGOSFTszV3jG",
  "HewemT5QOavvNlCbep4WffBEm9Bun4833RL47OLK0i5SNj4oKZI5P1IjSTNeXilznqq8cAV+GMQlxB82CUwfr8/LyivT",
  "ja54u5NJ53DTmG3kNU5cOjhYrw1DkNvKeiX+Y33qbT+XfaVpVRqoSfqkrY4RLtdqeskqDxveM0kHJFZRQR9jaFwVB+ee",
  "SRo2m5iY5ZVA9pC9mXkKZ+dQ4fq4Tah8TTkt2rPuzXwNmnC7rkZFcp6bjM+y8iNrl1UiLGzw/q+rYnJnWalDxtTvrNfz",
  "nN+0wwtDK5S+6kpf7sN1cZBr1UN720lxHt9h3Gp0A7EkSG+YRHAPmJ60mbRDvJe6OEDP4yy8XV8Myx40BUO2i0TtpIe2",
  "XwnutTb3zlYc1jsVsfwC34K83MtJp6SLsLh9CeuyAqye2+8OBIUpw9tZDazDEjmQy8Cf1dZ5waq3N2MTme6ys99Xmzo9",
  "0/dx2lCALmd7CxWcCDxdHgrDeYCdVcQlvI1U2IxLZ653s8814HQ325icC5yfod+0ySWxB1bhHRsktx5XuH9Wj/8//m3x",
  "ly/hz78an45X/IGewGwQvzzhbBKd5SzIKnmyPaKEjb9bWVlMU5a3iAE4LGU4Z9d7KyEsHqoUAJXV6aX9Y7qowqNElmiX",
  "x/mbFXElp/PtEfHrXRTT3rHvtn97R+yEV8VQ93//+rbnFyMj1/yZzx58+fb9q2fm391rXaHd19d2lF/PH9n/4IM32Hz5",
  "0NX716/Pn39z/u07c9ePPHj/zoO9r859cwn/Xzh++/7ND+9fvXH/2v75t167f+vIwsUbCzeO4sqFM+/OX3xn8eQrbt8p",
  "DY6ZyA1m4HurEETQyFy8zlLlUJGKg0XqjZt50IDLx+kaz4QZRqyh5P3vHrOmzP7nWWGd6RRdZueherglVJNlQ4GHlqwf",
  "sAez3Z/IAFzxdFLPZQ+r6zBMbWNicLybfRqvHifhC8Udl2eR+FR/IR5MMmwO3zH0yAzexxoGcRhRZnFa/17kW7GvoRfL",
  "r3kznzuL2e6uHTu4go/XZVWUiG/9bOCQMoJPtEXdtx8NxdxHzkAy9H0iZsMdZP4b8kJ63s3vXjU2SbL/OS7GIW8n2SW3",
  "i/VRrIzGPok7XBb/pmcr9GycZGQsn/XdIcqwpPPr6n0cb6e4Bo2N0j9b39/69pa4Ki9J8q/wu5K5kGyF5T1xFe94QTyV",
  "1yrPqnAjil/xqjhF7ZmeE/Nyef/LYkf03JZX9Tsxa2LuPhbrprEcljyZuHo4h7vIcynOyBt4X74LGU33kzXUMXZerHCF",
  "XnQzfJ4MnWQXdXNCDsohu+VlvL3mB+vi54bsjV9zXvFGNxzz4nmxmB7Eu3+NnzkG0G8v6i538LmDFQ7Jy5V3P695MubO",
  "G45FVNyTYjG94UZ3yXhYtWJ2zVW90wXHo0oJ4JuJx1N8kMaWeQtPuK4RXHX3cetI5koxS+LZeEN+v1cjoHyWY/v206Hc",
  "Gg+mZOsm/t3ppOZa5bN8lzvi37xN5kut4hVyykoC9eb47B1xmp7X/Nh4jZv1jsk61utqyRTL395xPLQ39R7umiXvcruy",
  "FlfteZK520MZ1pNNAq76/SV+zp3fHqvsnZvGEUsu0ZJF9aLk6BbfT2873C+XOddYYe2vCgfo5SFHKMayS1d/jVEcMh5V",
  "t6eM4dbW95b2AOX2dUjuLe2b7fjqpuPf3Vcdv/bjebcDr2n9z4sldqfuw+d+g2cNZZjrONxHJR+qSZ3mm/rnsOOyxfxU",
  "enPvVBfm876X9G7Xf9x6oLPltG8t7VpIW49sXPCafvWO/+K2746Na44NW5AP72ONpD+v3PO0b1+uNtP8+U795Izvpn28",
  "Mp7tatF+e3g9/748HBubepfduu2519Td+5S//zv+mq98P/SyRbUaiLvr7S2OuA7mdk/Xuv3o8FnD51oL7/364h1df67S",
  "FPuqHmejtff6Rn/v0Xu947ty3/Gtya9oYNYI3g+bP39fk3N06TtuH76X9c52PcfLWXrHN0A/6Vu97670l7e+8/ayZ/Xc",
  "j/ynbP4/83NSvi9W9qaeW77jTn/NUb3IFXWNf8036S7X+ohfwVN+bv09T+yrNDQ/7Z9ervV23xD8lO9RvtO/+2m/Rttd",
  "j3g3V34d+fOvdP9PdNtyzm0k5zXOb/yK79QPy2sO+tbtXy+RBzdv1zR1x90Xbl+UMrDdv7U1dv/cP+uI3nQn+8W78V/1",
  "veCvDl+5lFt3B80/rz9SmavLfgdd1W1P+fk85RrcD8dsc/W+b6H+9fC93Kxu13j2+us1PN75uMZ8XjO5U7P09XDt3D66",
  "7VvJ76nojcv+56eGMmzzRhn7yn/kmr/errnq9+k1De+4rjR5M/k/6ufkuF+UK14GbMxX3IBt3YeyWs7hXr/f9+luV/yc",
  "fF7RD9sr71jROe6N/JTyueV4zqtbfaln9Fze7WxFfkr53O6l9LJ+pUb2br3ercjYbi8zJ/TQcq/ZXnh3qf7crk/ZXjur",
  "d7/j72Pyb0r+naU6/5q/5vOKzJhgf13RA1/6OfnKa/LjTkfxI2f9wN7TG5X3P+930M3hPPBXe/yvTvsVP+VXQSOxaRnu",
  "93eX6Irh4vq95uT8snvZUj+4b20tTPZe1f0lNk5Lnx+ece59y3nerW+v6pqv/CAPuXd011z1C/R15R33+r/f1R0u6+ff",
  "VM7K8+6z1Bt23p0o111s0eTFPiCG5Evik95Vsj5fvPeNZ2z+fgfZpb/frZ9fESPykKvZmJR33/tabN4lD3jJsHyywrF8",
  "Dnc4R15w8ml7ZnD+dAmH+CvGjM3nfb/TPct7wGKVFu+1/fwrjsmxTZ93rOP8+gyvdfc88/1O3cnGc0G81/6eJ/G73WSk",
  "xn2uuuvJ0L1HV5Hfeq/nKBeL9GclN/mFe5/qLcg1fqry3H3i59bYHMO5MVJfFGu3MX6Tm3s3319z6pmxL4jffI/xjRt3",
  "tXjEL4p/2n6+Syzmp9287dFbnjLG6nun+f68j356RXzpB/Rzspif5hyUnxVHt+PrPqVPnHP3N95yGw/v/Y17x7OQgwP3",
  "LuqOF0q+7i8rf18Wg7ab8yHXOSRjOCdnyYfu1v0rx6495I7f639erin5va9R9vxa+He89zlHY/OAuzrGcczXHjGXe3Zv",
  "vy6UvAtOfs7hq326M+X/Or4jT/pljcDLxikxvp92Y7vKnyuuyMgf3fZhO1FG/tdWYGbGDe6wp6LUmO7nLnrZGf5GdNM+",
  "rCzyYVbjZe3lK5QMMb6WAVE8jOxZE61Gkjf6bRdxHKtig6uY/GLyB0jMYW67QmZFnAd5EFzOdsin5Omsa2WTd8+lqQr0",
  "GbbUHcNfNU8kmluq3dMnMhz2DPM7jVaftCdWbOEyv2uV/POZGQXZfRi2m7OttUtoVDAQP256ELoqBZ6soF6DtmWhwk6M",
  "VxHOvQQG+wbjjvCnEkxhnqRmILKaQs/WVGltjZHNkulsU7/L9GCwnj25qtDiYNjXNB2sfFYBbweT7W6bGA58SPWXxMUT",
  "VdkZ62VPMyu7HlO2fIhAErPAEF7naJJd0P/JCohkpYtkW9Ek16Gk+3YY5SZZOMgTXoiFhJ2fn2F9IaN4nThkNjEPjRYj",
  "r+TirNFdmXwMrGOfmyrFtj2ZmiOxFRbF0Qy2DHUyrNsWvUcFA1TmsJWKcHywY0xnKGvsU0GbILtPksWOcNMq3mRIKKMy",
  "R95INZ2E+ZTM8BiOJ6PRDnPgBou0l2y9DkrhYMMl1bXhsNW0umwsu7wKs95cgcIw66X0BUTDih2Kkni45KLDT37FtKJY",
  "eVmeWE2aMp8yoxw1q0aHtPtraxNBpXBhS78YFp244hJHxNZXCsDSeg66Z6gOFjsOQQKGMzYVUJnR4A9KAfl05Eg1wB1U",
  "UcOeZyA27gqPYcJcuw4F1tQ+HGKtjFnA8VE7riqX0oC45JZ2EMF6Lrl09JnCJTiMSIW/fHLcWit41Vmt0nBsPx4GqSKt",
  "OqRrqxiTctedNSgr3/mcSul1Ohi2ZcZeUO7FuEDyJWChiQpylMSlJe1dOjD02ktVKJsbt1bbwwImq3iLrFrcMOTzt77N",
  "oj3BNdNrxreNFi28yyykcXRYj6J9ahz1yqY8W0GQr3QoCMOTVPBF8ZDOzqEyXYtFiX0l7zLEODLZW0WMeFXtG8XmampJ",
  "9qEqxm3lMKGJS8cdEbaOu5Imzwg9fG/z1BF2hA1DGQwpmQnvMV54l/PuVDgqy0IKUbUw1cmryKvaytqMq1sbcCvgDw3E",
  "W0oUVVIV/VmYOitxNca1I6BgWSEpFHw87HleVKF6P0498Y8lJI2h0066oIIRrgVDPoupJYnUEjjk+If84sWRpcgcDGkD",
  "zpZRDyiZ6acdt7zWG1yIRU8OXeLXhfn2YLGyG+h6giVMIA0+4Dk9DZ+Ck69s9zvUsEnYcQQr1tTdQZzsm+rLBcNiMKjl",
  "sWqZiXGwe14Rj9Pi0lfqXpaNbPCEGIKnC/IYSF7iKg50zDU2thbAbv8kfhIdQyal0+G9lZUuiQKoozyS1CB8JYsqL660",
  "vCiRyIVDXtnOcmWQrcyr2wqeNB1Qx3e7nlXYEYbrdJF+KzH5MK2ESeVlk0vQxw74bVXwlga1DOtmJos9iYrRWqt9K7OQ",
  "roWzbmmb14gEfJ9TCUVZVCVECCsiRlxJRAn5ofoesmMaqZXjvEzULc518i0p9j1pBtRE2Z55WEqGy4wj21FlMzVb5rGt",
  "NsgXJvhimbb4p3k6egjnsESgFvhtZtxmJbAGgrCuqv2HoD2M4KFq4WyF5S8dVCtJC39OSocIj+zqXKOg0m8nGPaRcZyX",
  "JalPOKx9E6WO4DSa0VLReei1mRdLawkwHCOq48mAU3FYKUDCu0GHPSFVi1byN1B2SjJJipj1L3Y8fkEVD6/S5SS043DY",
  "yLhC2RbQPuhl2dbAY3w8d5Rkp1IwlA4mnU7VP54s21QnuWy9KAhgFbAEFVdUCATJIOoLWqFy8XPXzwd/VQt0V1bN48Lz",
  "iA+sVsHJgWMvU8NgASCHPT2x2x931YqO8HNYy1VsFlupQ3LRAPTo2jXrK3C8lRuWui/uPNWscDl9ixlHZ+TOYEoanqTz",
  "sJ7BpPb0V8urJaAVNFotqJB7EhBeJEXJXFXSOTsoii8ZLzz9qABwVl41pB5SwZCkp1q2WQwtId3QCVwfRgkPic3chcbM",
  "kA4xcRVsoIjHRV8mN7WZpO3AM2yPWhWiFfj6rgkSCl9IaZpiaJQkhWt678n4XE9m6nYHWDMgWZ91JI1YnTwJ4Roytg2b",
  "iuAmDisWCAWe+EbL7niHLebxgY6VSTty2IgXd3uoWorI87TEilFfp4krWn2qArQP1lW3c0myz8scbYadTJWOXEGoyqK4",
  "LPnyci38reedobnvSQSMfNgxSNFcXWJ7ljWrhdF2GCsH0Xy/GrJnZc0hUbSwVzNxCb7yEy8AoBB4VgqJCanWqc0kZH36",
  "/1Nsv9IgbEJHsukDNoYviaAOKU9b9copu4IUgaumxy6RYxZX2GXYyUejnqpWblccKJYnunOE9S+eP08FbVWigUCdkX3p",
  "vT/nCHIsqqz28Uj1kDDL3X1Tlg24euUhdKsknxey0FcyGKe5Fzc8Z2SJVJWsomJrMJSr/hE3oueCGlpCBCELcTzqxLla",
  "CqtyIEl6ERsTbdc1HyiLbXn+VAQWOjH2PeGdX280QiTUEKrPxXSqqsp0uMcWj1SXJEyluoyMllumLK0ckmHTjPCxgIEj",
  "kywrfKoMDoULJ5HJrBP59iPihWEZmzvakk6lcGh8yuBYvly5St5QoWcv7FTwdF/ObzctVo2etV2xHpt5S9UM2eldCZMt",
  "P/VzSZueJjNWJeWk13cASQdPZhWs8PNV279CbCdao+GBZjhOt9l9LbUDBHpItyOG92bR1JDaKiGq1jcKczxKxNfKGTZ/",
  "Tr5brzD4n5EMDbzrK0+aVnKp1RwfqHHKVEtZQte46kXt4PFqhW1YrS8WSMv3JvH9O4Q7ZlGHuZAYo+u0FUbkHt9cQohh",
  "MeKHM4lX3g5caf6m0IveRx/ST1Hhu0Z+Cou4AmWreKxUMuO1Syilw0uXgGz8NtHIKPXGRCu2RsHJSldkpeEsy8UKPGYT",
  "Em+VOCYUVatG7ksZ/UqzMFoPCxLWsLjbh3Fmo/CymarWsISpEV26ShQjXOIhI5RnWXLF7uYVj7K0Urleivf6riIegi/u",
  "lifjaHhIiArLA1JLp0scxkGlgJ9zttEX6CgE5HyUiJ3gA9bxzBLTZjafx1z6GhsHoi/BoiEUSQlbn6jUZExW6x4GlW5W",
  "PCyEoJ2Nc1iUVXLI8Deeu4OKoFSDrOj25MwadfkbWnZCcnt/CJObpN7hlYbtdPBDllvQn/S8NdXXLqZc6EdxVM98Z8bZ",
  "488Fzz63OVj39OYnnnck8WZ5ql6lGP/rAvdba0eog6oOobYQwVY1MOCBt311nhkyQaeDYUSGuq/kDMiKiosArUR+rrbn",
  "wnPUgyb+Vf6ZjowFb1gMod9WiuurjIt4olq9ONTIEJyJSmeKNea5egbWkt/FiP+GGQJ3vthZbjPrPlMPMQth8Aw086Df",
  "yfJiKyy+re27J1L7pjPQv8bh9e+PicXLpSEa1imGnHVD8i3Lg5SQUA5c37iWjMOOZ2G7nkz3tTsez3hmsjfswyuDh8PI",
  "etO74FrSZomKchQwOXzHdschUfEnfELFfIQ1Dpvt/JgqIwh2wVTViChJrBxtd5N1Dm6+SyffwsfWfNQ9YbIanJtaS9/w",
  "zx9d9+ePPIn/Ty5Jjfh/IRzwTsaXpIFeXlHdlmNFhRpo+bolM7E26MCrWJfn4YBFBktiPUtOnInfEBvc66tdxmBlbarK",
  "SbHk6VNrH5ZkQHfGvYcD133K2cgrg2rwfjJNKqwkauxZdi6sUIpSV/fUWsm9kaU/rIFQLRhZEkAv27aGro1bO7DKNhJx",
  "+pYUZVvHYa3wmAY95l46WBKsMDoJz8tf4ZoXL2lJXBINxpbEsYP11RReYSvlB+NrJC0KNDpanfuNJHUKrBOGSCrdwcDk",
  "Co2noKTzsSYxZVOvJfEJVVCVRoxNcllJGw4rl41RcWjHeO+44WZpKK0zqmYbHllLdsCIxdgKZ50u0evU9BUuwWBJasUp",
  "SSooX4tY7r8qwwM0TzUdMVrpBYd1f2zYUwJ3W+LqjkwuSUlUmHpZ9+C6ONjnJk3EXGZGZWZlBbm1PPQ2QzKMJbECesVE",
  "sKUYS6JgLSR+2F1h1ao/ry1Rp4HVQ62Hs5kRxK7ouQ9ONqvGaLAkw7K6Vw2HsLsuBlpGsykjZReXrqSn7aRnbEtR2TqV",
  "Rq/q3iX15jPjqrZ7wvTW8tmxSv+x5Way9yL+lU+VcSuKUrihmstdGSyJmqx/McbZ43vNudT537CJU9YeZp1oozD5J5NE",
  "jrVx4vna8eVLQmBkHhx2yKrw45XJEV8LN0zNKeml93rYZuJhxz8EDTQySRZhbKDSX51achvXN9E5NMuXpMgfWqLCppZk",
  "lIbVlRxrpWMfj/pqefKUETv72JCLzTnd0wjzuiiqoFaieGSJF+zfU5mC0fElAeNKXztrBFnRRJNLErLeUbTuKZuT/+P6",
  "HTz6t8n/cWNvz8I/hTOS3cZTi8o1P161JLWwJI0zKYPRsRPFkc/t0/qoBUsOp5Elzm4QN2D5Fklo1MBmzfpI1ZDtgvM5",
  "ucSfEVOLeGW9QWYmOCOjifxS3xJzSbQhcP69S2RbTNlrNxdLd6tSW+K4Lgm/Ba4FmFvpYviLkqx6lEqc2AsKYuBzC86B",
  "cPrFgyoMvVHh2vFakX227AcSt7Ly2rVsxcHayXpDx4yCOqz0pEUNr4/MJg40YB01fZp8aGZS6krOe+ENhhkbDrRCdOd8",
  "smHD93XV1FNQ6fMDd7Y8SeT/TS45moMl5oz1k/Pjke9Q0h1IY7py78QM3zKpPdQoYj7xfoDVydl+s87VU2KMKh0zhTv4",
  "E8XXSN2SkNlGm7wSrYZ4LLFDli3ZxUGl06xCKF5X86bLluxb1+3ZnSZLks3GnZZ7Hn31eCsTE5WQBF3JoMqFV2n6UcYe",
  "6v4ocTvcNm7VSyPvh39TmmbepjINRis5KdXrsNUCIyyVpthqL0mgUFqG3ZLKDgiCqmW8BHcTLPElg4kl+KUKU4N2QAX0",
  "VAzZoYQeIDygbGRd4W6HGA25ymSxLdHsldZ9Pzw7kmCJwCyxywmNckTRHKF4+9WKkjLo08DG9pTHOoedHtEMljny37Jf",
  "XOmWW3dHP29kUZHgKmqqz5WebIUUb3V3W4VHw0ULHZ83wwNGMeH27UNLX7AaJ6WChC5KXaTHBfnMHSx88wSrsV3i6JUB",
  "YgvaVXg+HQtIpZ7WcTO5aF8ZhTGul2o4d8kwe8uXIPEMtqJyW9bZDiNs1uLUsXpzV4ljowziVHdfEfvUn83L6gqboMvz",
  "lHPtKsdd2MDR5ju3v9J30M38MC87siSlWWlL6Bp4KGOn1Muwjpa6zIVgyrx1SZgvFIilhl0uxm1pBorW1Csdqci3NOzL",
  "pEYkDCOxty13wAs0T4dAl7Cb9EK/b5eNVPBGhWOmLFuUCM3RtzTptmeefgqnz/OxKEqUhyxhagU1WuR7t8uyKudzScKk",
  "KPp50zqklJZcyaVG5AA2oGJ3jcELODuHHn2ZivaU8xVDb8MSu9x7WWXfgkrnPusm5NnJFUl2UxxHjw87zvt9G/vQ7vol",
  "/pGdojzMuGraSmWrtyWS3Kiw6+DKJU7rsqRpTa7V+KpJvmjrO+Bp8pMyDV/i4rSazqJ+1s2nyYSjVcuG+SzG47pxZd3X",
  "DZkq8JSRJerNn/amBTQv5bmyfMn2XwLYK5a2q7XG1r7ZhWXVvIYen6oKWrAEIql91M8J+vS9NUrenAlneTabzZdHxkaW",
  "KophQxlFL8ves0xRLRFsJV5KvSQLogzYOU/Re0TDvuK4y5JUgVLcQ+zukqHUK70bMSNm2xv/CQ69zCcPreFN1YVeElEb",
  "dd3HhrrA5xlcBs4RjOls9LgtY9QqG4Lj6SWJnDHKDLOxuNJsdY/hVK/G0pJzRw83PAMMrTio3FfZdc9SU4Ua4J8qXiKo",
  "GEsjy0aWxMitm1fZHqeEd0orVsaJPTMMuTuJZArFIR1mXXMFM/hdZxKne4b3ZBO22hK8RaVzbcDDVjrLR+xd68O1tU5W",
  "C6zRm2+9vGHDSti/GJcceY5l2ArYh2GTnO2bhslTrVgVrWhg1tLfDBVk8AgNzEulW2xJ4uaZu1zrbs8tNExyVdn0cLS7",
  "lHdSDPsxuRxYWPZhEBq4pIXJMteAZjj75reZF1Dx8fTPkrORyqNi5Q29KGuYVjYqh6UwpMk2+0xJO5dVla9WNnj0+NRK",
  "h5ryvFIEy/GbQgrcyVyU/t+QDbQSVKRl7CfdeullQYUwzUGT3V7xTVPdNguqJ7pFYzzuo+LntNTltWGts60BfRyU/OSD",
  "IZq9fCOqZLV4WqJDuuYr+06gDz30w6cP25tXji3M7hJYoE/QOvvMZS3cplgSPG94LWAJuSX4/JVDjixC/pb475NLMOTY",
  "Yd1ia9YiN16xFeJejSV8+wlr/41N49trrF0eflda9xWehaRr36k6XfXoqvO+LRYCX4Ff/d011ZHfcDXy16tV6fjtR1aL",
  "/n//HBkAhvf87tVvvxbHgLEgVK7E7w857gXxDei761Yd76q8q0/4DCNgPfhV1adXmBfw3fCeZCPYsYQLoFID/93rYh0h",
  "nwPv+bX4DqzGnNwIO8p73FId+t5yVsQmodm4pXr4t1Td/rUqyQ+5WbktloGrS2r3yRpwWdXot8QpcWzJ+7FS/7WSl2GH",
  "uCAufbeLTxuyHPBKV9l/3lXGX1d9PcdzS08tn8BVqszEZf17UbXv7nPl725++4muviFWg/OuGm3PvdP3zn2/v/zqgK8Q",
  "UhXXFVVyuXqqYXWbVc2VdWwXVHf0uarJfMWdrzP6DNdcwXfHllRxWT3V6XuXK9VJJ6tXajS4p6uq+syqqVzdE2v8vsLn",
  "XnG/26maKbvLlXvXWd3l3mEHa8Bw5T73uQuqHju1pJLNj4UVbH4sn907q/q3C65ma0elguyzJd+d1vseYN0gv/t+57BW",
  "y9eAueedVcXYN3ZPzeRp/H3NVXIdYBWce57Vo53BXa7hs1bD9oqrETvtWXPcfO6r1LN9xjrE4dOr74AnnWb9Wvm761YP",
  "yKZosAcNUJNPlI0w7STynV7cgV9bGtWttBQWHai1X/FFMFR3VGguV8qcy0vDhnmTP4qyhjipFHx0zJ5QiTGzRJNLA8ZL",
  "MnOwfJeq8qXJnWIYCJuOmdZbEtIdEYikwca0DUFtfeqJfj6hixY/LJOV1cRN4SM7blQuumF571pQsfbKw4U8nQZKHFl6",
  "+Plb+fj4MIwg53lJaFu+aMVfWzGxxFVdYvrXplYszcLVl+R0hu/byLKtyQ8iiOMvc67+YLbzmlUT1R4ipAN1fczdrcaW",
  "Jjt4zFa8oyWor5GRavIYZ+fk0lWppN9459oSbEFtWLfhWKmDahMWl0T1cmUeWxmWrE0tiRoutb4m4eja9bNZHhUrfbY2",
  "sHSta+BdsnZX2FPZMGKptYZRzcZpOmxbEFRZ3JctDWa4WXHNsEcqXdu9SeOiv2Un9F5Sdx1jnbFXVq0scXjWLE1VTQZL",
  "U/E+GeCsl1+p531Jybs0xPljl3mFNG7EdA+GRHM2jGHagvVALg3mg0AS5GEv71qwZK8M4WYm8XRqhzblczl3b7YtWN/q",
  "541WpXExL17q9wrfVdk8BmRpCWoGI+7lFcurlpattX/dosSx2q2dmBUVgOazygoIplduTcMvV6Ae/Txdrhjz0CUtfuD9",
  "+LScmcNLqis7pVdbCVgN0xR6bsXvqVAC8vqh52KBsGBJUkVxo+H8+eoq5/kMAb1CTC7VZlOzZU9riYqoUF8geTlvvbbS",
  "w7ti9Htv1nP/upbIMEw9p6TzPatE7pVoknFaVnaZ0Zr5ti+MpizJs/n24P2hOxB4llyFnKphyKDq22FFqwgqxWHSNOyW",
  "ilI1kcPoa9m70n5rTWccYrY+qPSRd/SJ2M72IKGdp607vakGjWpYGlDuYwMxhEvrTp9aqhiNBL70CythMu/KVuJMv+lY",
  "q0W8IRdvaqkKqoIcFQrNuhvzrBtOh54t2fVgrtSg+OhrpeyDAmK0cnDlpzuEhMYdxn82MV6Kdxzmne1BG5SXKldlqKqk",
  "CiuFsTOQWfNjZzzr5FI8i+MCLeP9S2qoMe6l6B6L55Zwumqxi0djD7PgS5ToshE4+NVWVqWsmpJRTsThJbnLTEKdJbEm",
  "KYIqyNgfMVbTOREsheFwa1R67hjzYbDcOBFXlF0GrZnh8Ei15odV8BeVW1mPyh0tuo/ToukwgqaSBeg1z8hxtsI39bXn",
  "/znomGFIV3LK0wp9XeGkOuUpPt4Z8rrw4q8dY9Xxdx2NiWP4+dBzpNwRGcgZR5vjfnvFsTA51pfqqEpWmfc8sVJJKuK5",
  "tvhcf73jUMJQ9+sjZz0LzR1PLHOtwi2DMe8ixwg/8onu/KloT45XWKeOeKqcd9yd3a2Oes4cY2J5t3LbL8UM86pnUznl",
  "h1HywxgD0uf+t18tIR1yzCee+ackCisXxc3kcUfr5Ci5duhXX3nKl3P+4zs9x8vnFQ4cTwnFBx32o7LnGsfLN37wRzxN",
  "2X7Pa3RcvzLaq5164j7d2RjDDnpCp9OeROszff2p5yOq0r8YW9GXngHmNc2M3fld/9zdksPXNM7b/PuE6Lwcy9BVR6HD",
  "r4/7OTzkmansjc54+Xmfg+GtjA3sc93qql/Ez51gu1e45t/Xz6QTttf0kZL56qQnO7rjaZQu+6k77t/3c1EJHfWfPeXv",
  "c8WvkclGySP3uRfa456S6IhnATpdYTn7xguzPWK730El/VTJonPc76YdXhvsrazCbc8IZPxCxxz1EC9+x6/4Oc9KdMrv",
  "hV3uVm4fHfQ3PKp5LvXJzqGKcJNpQ/rQS7vn9XJ3Nm6fr/3FXmLdTJakYX7qeNk77iP8lVE2eS4vfnvOP+iIV01kkcqL",
  "4i+rPTZGe0uzPPpxlcu9V4KElVZfanCPTP4AhhEsqStLk6kfeMU9VzM6Bl2uW401cAhtHWa2gqXnyegPTNoRf//Srw6X",
  "uuwrJn6QGyJ6OYK5YwbKmuAHtuoQnyRzaI3nY3eh2OAxwyWzXLtDlJHv6+it6klFYtkjjRQB8VpD4A29hR94fiOEY1T7",
  "jZW0Lr73bBQJPve0fI84L/HDVhAbFD9YgPEfxAocBzIs02KAO7RrS03I1T0Rh6+tvcDM/dbalDhpgiHysoL2JhxvYuQH",
  "EYOVwdJsfigTe9iz6wfO+mT5fJdhnPjBBBhOYWiqCqtTLc8MliKeKs6P1WVW+nDRCvKupvc1Sx9X/A+1qdoPPKqRIFiS",
  "VuWNV/+sUtjh8k2Px80QdthyK+gqKVSCxwYvWldwx1dP4qCXei38/iXO30szhK9WXMPKlwZ0+YEfUsHAEudRVHnB+YFN",
  "lnUqW9pU+w1bDY5tH2cnrnFIjdKAXFIywntqFjqZ2Yq1KXNVhljJaomj1jtYigddKl2rVrn9MQrzMGTDDyvSZMmLxYcq",
  "frRIR+T8V3rrsRdrgxLcMDe8ttThH31SBbTKMIdF1ln5g+3wUPHYYHM4zYz/8mLF3636+x+YtpNjP/jBUBIsQPawhvXw",
  "w85veLiSH9MEuqBQGQQc4vscrr0r3yMIJu2LH/ggPRfOKOW3/gP9UnKMW1PrFf/wzj/cwH/f/MOtf7j2D9f/4avv/n91",
  "XVtvVNcVfs5I/IeTiSLbqmcGSlQ1eDyRsUlDlQSUGiVVH6rxzNgMjD10zhjbiirFGChJSkikUCJUJaSQ4LiBOhCHgWAs",
  "tX8Av/EIL5X6L7rXbe+1L7z4MnOu+7L22mt96/vOARswxswpD/IAI907GAEfYAT+DnIdY4Td/P4cMxUQyUe+Xz/fwZy/",
  "9+hbPPsLZAgGPuFtzAl8iVmELfyWMhbEqIycz/jbP15H4JlPmTlwB7vnMY8B2YEtzk5scVbgET7Bpd1zzMNLrNGQg9lB",
  "vuE1YrM1z8/vt/sJv9825kuQKducseW3Bx69jc9K7bMVZEc2XXRfceIxL5mKa5+HSDfHlVXEH37a+PUPKpOwBkxtT9b5",
  "/LtP7gNnHl3vyS1gKcM7OG4yOusjy9V3Afne5Hu8P/LtbUgeweM5+8Y8wVn6JHhGx3nH9+t1Z7p9LdZic/mUyy3WXA0l",
  "E5ZVwzUKbRyC3NjShZOqaomhAC3TNYsrcv2ouZ+THVYBxXAiVbVSCBZ/U8QAQS/0J4HgEauzwJE1juTKbrQYmDeHnbMI",
  "/SVIibacwUfV+e4CTmGczKLumR0CScmesYhlj7lhT8GLtECtctXPjMKqIzFnbkLPbQFIvD2FO6Yo8jj2tw4ikemRfhFU",
  "r8+VZI4ohN4H21IHB+TaBfFmxosTIJo3mr3R6pzGetdR7BedBXEhDD7ZFbHjzt8sNoz5Nz8gNFKreh4aqD4F2GSQQYPo",
  "pq0BihIVQ1VGQ48XF/uzpV8XawWH0rSAxNOtekeFJSGMRb2Z5S2MjoerXRa6Qwj0kbgeYkx0ORU8OiA4ZklyiZYBv/IG",
  "AQmqaFzVrSLubra9XKwFXbunAKU2rVITdNmJGINiwfBmsKACknE2ozjqpPG4zKJVz0FVvpWdbHcAWdMDKsHAdSSsUaNv",
  "R4zlQ5Ig3NHjXQxhZROsmCsKHvb1OSfQse9ysLVwog7KJcDudtI8iPm2VQIXC1ptrj7fYvvhKnnMwe+SABQraImGUibO",
  "wdFeF0FYvzH/LMxAxbAmwhHALKJykB0JES+KCoxgUYhO0WqqzOwmuRHZcrj4uMTUBIIp4BDn3VvThzHFvCKlabY9WFYK",
  "fCyMPuZ+KRQgg8hDdWFMpJBYhLI8KJVoN3KP+Qtjpgz2JvGm+lyX5/Eemch7QregAPixTAs9mzEzmmmL4NFCwV3eaput",
  "EBTyZu9iJjN3NRBsCx0MjceBcmbItHn8YdgeXYLDgUgSBs9B1ok6kYkqhZhCQZn8LUTZuHYNhIqJGFI773ZsVQwig3Xx",
  "twQ0jxiP2JKdcJWr0z5vg/6i4FGIPYBqbexFtQQ21kPPIyav3bdlBVqIl5V0zDBhhU0CLdqilQooOILuWstPSk2ERto7",
  "AVbFBogiAe5ZhnZ/qVsyPm/PCjNOLbIcHiC1QJWwKR/A5XrtbtMvZMiogfyNFfPjcd6us+KREgo5lmWehGUXhQl7yn54",
  "/HWIwMXRQ/FybGqPcxPyFnZjUp/JgTjB7MlCI2yD3AckHj6mdqW0URo7UV82830m53hCZV/Zpaik2og6Q8W5KzyttfuD",
  "LghY+RISkYwXjT0/XW+Y7ReiiGH5aw0XX94/qcr8hqJnrh1Rum8oojmqdoLkK/2y6sCTspYq0g2zKa73D5gFzaxbgEeT",
  "SRjN/ULkkOVxA2nvibhzsmjkOXSmKDwWs9BRK0Y7SsVrxreHx3ql0ukau8zVk001QGlAukpA8QqQza6zosg4RCfR1WGN",
  "RU6gTpQT3s0jN8TjoYai3lxBkgWqRvNTQbAOW//CuqqZl1ChvS5SjpGEKu7Yqy9OHZmc/v3RQ5l0hSbtoZ/FWhiT8joY",
  "oyo+3g9uNh45GoCnE7LNxQ5UlQbGxdgKv+oJ+vWNes88b1NHdJxTxVXT5CpDfa0EA44sg7SXXrbZKz/ZWkGsgJkx/BZq",
  "pKmdAtdnziLTREfVEOsRTu55Frntfk0GVndEC005Wr39Wgq06B0YJx2VXAfkKo56y/oBPqFf2SjMUa7uRBY1kg6b7TNR",
  "oTBSZVoL1LkXusKNCui8KQoOY8NHi1KNoD4K+r2ehTGm6eiZo31N3+GLIRDV6nV7TOJjFuLOYo4EEl7xJUZftDob7fbM",
  "UKMSYct9M3l4gsNNr5uxMtPtnrTYAMeUsUAjp25zt1J37Ywylr225lX1PjJt9TsQP2uQYiwlv82bSPhoVPqCtYUVVp2s",
  "QM6I/yP9vlKNrEUmcmIhC1LtiuzE0n3CBmax51yCye4CDWnjJtBmGEbLnPFyFnMuxcuPAtgXeDvmXEJco6otfxDQuTiA",
  "AYEE5l11js6EZrghqDdP1BFTY8cYxr28gLBx8nMmILKsp4oTlphuzHXR0NrE/HEiJhWGcqxnZKSEDbdOQeQRfSipxba0",
  "wBlVqAqtka5UkipSx0hMTqTmTYB4ZLeno2pYOkZXpwKsBtKG0AA2w6OHFL9AcCiwM29TYKeVjTaCdwPN2SXMjxlfFgaT",
  "1Z+3DrqdkufWLplWywMuBDNPGe+kECoHu2B5gRCG2fPyoIbMbOkUJJBHZlALD4451VBC/3b7UPyRi9qmUDABP4/ifcd9",
  "gl/9S8Td4T7T3hsYBJbLp46fCrB2ZvRFhrbg2DGF+qgO5FxdNBG81/WjtCDr6GPMsRaViaCcHz+tKxzw3QVeV6SbF0fG",
  "HI1Pm/hlWx7UDpsYF9VMU8RxmRaGZIhbbe9YFiSjfH4SHIe4wuJer7Jcgoiwugn3YxZt5/W3FEWz6Qf7B9lMfJ5TbeR0",
  "efzZ7kePfwbsMuqFkU5Z+MkNUgFDJPl5iO+ystuDQIVNVO04xul/snuJo6p3WeEN4qoQ193B/zky/PgHPHOHUOWIp36I",
  "f1GUd9Pcj6Kx9xBVzjFmRHgzrpvvThHln1HXj3TN6O6A+37AbxE8D8SUMYK7zRHjv+5+gsjzc4ibH3CsF5TtfuBo8jai",
  "v7dRo20L709vCscQDl8+eUBvwSptcPdP8fgHqCm3DSp/mG+9KICBTUnIXsCM6irmpu9gtpfyyxbAoHTHWMLpnJzyraRr",
  "70t6/aJkqyml+7XSuvpWIQEo360VuAQdAZ/LWZB3vop/f8UoDtYSIsTFVZX8PaPS7uv4DKtK/eeRei+LlrFvMZDrfIan",
  "3BHts3UBh2wKruADvP4m580ZS0C4GpLFuSUQkYfymhfwFH0WtYxqZ27DDTlFqfA4jMFFyadrcMWOQm5sSCN/KB1xX+Fz",
  "VBs6AInFEmgoyCPpekEjODTO3x2EwNO8W1UolJ8Ucua6tNiO9M49AUUocJGH9LgoGlgb+McOIkwesX6Te9ozoqZH6JGr",
  "PjTljhx8E088497U3WtDeuQynnWbASosxkcD7Ka0yW1R4KKmuyEyW6Lpxne/7Y1e1rO7gC35AQJXCMbwsYCCSOSOnudv",
  "qv3Py+P9RcazbefvGZfiYEUPZfSuy/RZFwkqO8YEdeM+oW5aV+285a5D4BCeF+sy46zw1jo+4b+UGBwqBsK/t+114jyS",
  "V5viKlLWzFHrWM2xYasaRM0Ijrlvfv/LU+dxn4hOU5gf+o7rRC5ghupHzFLRlaGmZR0Vi/h5RONIfXIXs11nbWbqe3yu",
  "VajmYB2fm+G98Ngt+UttKCUEs7S/3O3NVfa9+uqrlWUk8YE9QhgUwm0vfDuW2VRAFIUR1ialz1EE9hZh/R4vdmdni5rS",
  "jmn8xkBuA1L1Avo3HksUUMpeCupDwA3UKSvO4Vgv66ViSsCHT9aCHvxRoRrlYyqVQ28XM33DJSAtabaOvXN4EkpMF9Bb",
  "4hueMF43XeJAmHhGjfEgp5I3bFQns/E4TWfFt81i7y7ej3sOGd847toMvNAgoiWJCmx3CkRVEn0bB56wJbCTKSn0Wq2w",
  "FKVBXgtSbxhbwVy/d60s2rEeiOMtBYwWeuoe/WocksrSsZIAzK4CM3KyP77xpTwJCWJ18ArOkS8s8ykMXMjeC/jrcmxp",
  "6PCZIFztQ5bhZEW+JEM0i3KJ+2ydCUbkzESYmwE9bw4KmL30HCBaoonQnhdQldrCTDTqzdY8xSUIOZKrSJKgevSukh+/",
  "bAYNbyIOrhxuDrebI8Qkd0KA2bAllm2GUHuNjDHjjNe3sYte8PqZYmS1OGIsWOWWq3JhmDgKXzAHhtZ04NS1lwGnn7Hl",
  "aHtqEBRWDLjCiG4Ayp494QdIxcHuf2GuD8SKU+XJcjzuS8TDIFwQENgY1dJkwu7hdoVNVW4dlA2phJmEOrlCDPJ/En/M",
  "4gDkfDv35dm6s5anajQ7zpvCPI5uThozNj/TrquLtZbNgGRSFC5OWcxJnUC1GwcCvewvhGv8oF19dhZEF/rqhRB7zm3M",
  "08oF7xRDXBQCl8AKHHcYLrHQ1FBHnmkuC2d321oygCf3EcldLrVmzDu3kFmkDsnGXt8VLdJqBzEgm3QDnJHEFW22VUgQ",
  "LMvF6xzZVY/MUCatAMSs8HqYvG32w66/iP1BlzjV0e406qfqIkjiWNB04NYbclCaQkNudrGH41TZMddepGIA9R0iZ+FM",
  "KYTAVkwbzAEBHBGbxR1U9VND75WOTZROHV/JCe1gRWoAB2iWVDBhMvpsbKoBXzQAbTcsr+GSo2gGsOERN0LvmDMrh41z",
  "cc2Z9WhAlUeHfygQCVJXPeSYgmmC6QzsxwZoC/aAKALa5eX9h17eP8ljzPxTHBkZCyNSsEJ6JIUSwzbD6o9B3WOIrwWY",
  "ZWCkEXoZ59neKwGP7JSZScMjYLSn2/PmrywOwRS9ZYU9C+chOZ8nKMhFVTr7Dso1QqpamV1sz+W4IdUGfuks440tHEdl",
  "8RIuE0fotX3qi4Ok78zUrL4rAsp6S9PIMVyH5XqFh96kLY3EHtB6d2J4PPAt38jn7uCingDnzLQVc736POJfLAJCCxwJ",
  "eMlez6EtvMJaOS6xYsfL55+K1YRDo5Yj66N6+Qs+mlo56Klf1arwonoIC6OcHoHo1AWV2CHeGutzsziTXEysmwnvrUh9",
  "2ff6Mk94fnsK8fPVUgOfjYEI0oH+2Fhi0XCMYU4wxSpXiTpJG8QMWLZBY7AJ8+8BrILMZxV+emoSnBej9/HZj9XUO91t",
  "N4f3jowVPcZxW+ocb9VczsGZ7lrC5fbxh/RXUKGO4BLCQKHmKHHewfsqZiuZDNU4yNzgrDasHJ32LDbvqKeDKGCU2IRl",
  "joMSjiP3oNk+1SFiUctgkzteH/e+ODAC/FuWaANOXufi42B+MeE+empXynXz5LqI4yva0ZGUGma77V9auklUKcwI7oeZ",
  "FePjnqSR6MZWU8Qi2H5Z0JkIInGbWq0edRzntbztUVAgjVAC7NPTgCMCGuQWsCPl5NmdgnynZboathtkt4dQbWUzoo4F",
  "2/lHiS6qZYkNJGJwCJSAwCF4NpIv8+EQOCJRFsjhK5U6FforS+0csHSYTcdpKOXJYF+Cm/uFlzQvST+shTnFdpPej18I",
  "/rFZR5tVUwsEdEh33oxc5Xh5concA7MJ+4J4TJaFYnwQkukvzi3+ZyPPhim3vjgifDi7Vx5v765itmMTcwjBZ4+vYdZg",
  "FTmCKDdyP8xdEMLcnHMWswAPJZ9iridZEJdD2CbOIMk+ALdOfC5j5cPPrlEWxVwXMOwDi9GnfMiWZeWJr/cJPS88sePa",
  "MfcndqBN/Az5cITfBGN+36Py+nmOr/3IkcI1hR0/Q589uQWf+WvUsenXwZbk5H0ZQ6lqYfzSXZZj9ayOjCakNRnPhnCs",
  "ibGPzA54VEEki6JDecrPKqYWA4URdybJeiMF5Y7gdAunXzXlpMiXnofjqkKECcx4XJHPCBfOgIO83TjprXLD4tkqx/bP",
  "ijBUPJ1idhRd96Fc76uyLOWQh442evPRMk0lKd7SRb9C266ODH6+BLyfMB3fN1O5xGVbhZSPS6Q1NZ+8hhavIBwhhxb0",
  "sYFLUai+WCr9wSfwmGj34ElqhUSLpDzTpaeDa08Hd54OvoOf988+HVx5OvjHs7Vvnq19+mzt2rO1K8/Wrj9bu/ps7Yv/",
  "3rr+v39+bkvO76+a/0YkL7YpyQvKMnyNcfsPOQXGiR7J2nDF5UVJt9mq0iCDY9MTNilgq1A3pAh0wFlIOOuyKxR1tcO2",
  "stgWz15R6ZsgIfixFEHvSA7rS3m8c1JPuqmSjLZq2OYr16XgVyduVqPS7MtcYcpJMZ3PCsq0b0gx70UuWuc2Wcf62R35",
  "akMSZJflyB1J+X2lTqf2OYPPrD/ckOpdvwqen3ZTZSFvqAyR7Xc667qceFta1dz9a0+41O6CYzQh4A+UG6HK0qJhD794",
  "dxJ6EEC2om4j9TdosML9ZWrVL9ZCG0jTJRGXX57vqGOdMQvopcR6Kk4atZsxq0DCh0r5w5VaGNKgXU05bbnVjtNNem1I",
  "nXWN8ZdgPoNtKFeDKuuutnilSuXd/ZOVytT0VPbeG9NvvZntK+/N/E2XRGSCDQ9TZZnHZZ4m3LpBjYRpqIK3esopLpLx",
  "W9Pov+NGT7VjfnAutf/LgsbiHS3eZSjozaE4BoUAIv8K3K9ZcskaH/pFIgNVTS6ZBUj0jGZ9YO6EVx/F1Juq+lLlaH4d",
  "uYyzpOlPTwB/ObMOQipSZHq+166XqAvMm/cWzUbp3/eq1PbhPOiM7x2jOnTlHr2vNv44tA9kwIyUHKjHX3ghFU+r90FB",
  "PnySWnL5T75Fel1tJZthvJe8XWs85axob7zZzQ72jJPeGVFciwPkbSQszx3EBIGP/JPD73i8k3ekGhNrL+8Se6TCNCWu",
  "YD6FK1wifkhA+FDtqW89s6PHDr55eDIrLvRL0wGRAXRfHFOZhO8hGsOwM51fJUtsDOFCrts+bQ6mzb9kO/eV+t4FlWs7",
  "/Q4fUkl4yGY2jukKSLW0YKio/7aZZGWqWzmI8Nek/Vion8jjMWuuZLezI2XEw/PgjX1YPAHHcLzWxFFH/DoV6TK7W7Uq",
  "aKe+ml4t4qgVPpRaQzTlXgITgLMkbSnj6Ag2cr2c3Kwkm3W+dTz9mqwQFY4WPU5wmLxS3rsvm/ZXf5twfM49q8/pnmKW",
  "XsESL49pz/FkG/aHh7L0uvCc9io2005MDsjgTgIOEb8/zY1q2j2BfHLyC5xL5bilo7nMMz9wI+zi+JwuLDynOaspOw3v",
  "9ZxmqyE685KyUGy9CIMptfO863fIxwGjKG0dOqAv0VbuIKLRXkewZgNxV623flnQXlcUrGzgY9w+Vqww5N3fVMAli8jb",
  "UQQ/O3zNhDtPG5fLSDFFuK1NwWp9ldpnbPg7oYtC8vQIkV8D37tn7Nj/AaElgYc="]

end Playback.Brotli
