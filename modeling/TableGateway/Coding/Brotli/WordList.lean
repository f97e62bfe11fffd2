import TableGateway.Coding.Deflate
import TableGateway.Encoding.Base64
import TableGateway.Text.Bytes

-- The words that brotli streams may refer to without ever writing them: all words of
-- four to twenty-four bytes, one after another, deflated and written in base64.

namespace TableGateway.Coding.Brotli.WordList

/-- The deflated words, in base64. -/
def packed : List String :=
  [
    "bP1plxRXli2K1umP4l5u37eWnqdSUEVEgJRdEUHUQEhKkaWGI8jMe6pOPQ1zN_NwA3M3TzP3CFwpjUEjeklIqV4gISQQ",
    "CIlONKJnjMs5X2tInw4a70ve-4iGN-77De_NOdfe5ha6L5VANOZm2_Zee-3VzDVXL2nHUTbbSZNmnMbNXj1sbG1kURyF",
    "vbBoZbNZJx0USS9uJL1B1o07W_pFL022xs08jmezfGsv3tYbxGGezcR5PYsGKb5oZnm7nmVbu2k4SJOZOE06cStOu62s",
    "HRdJFLeznJ-N0qwz3WvF7Zkknm0mnagbTuO5g6LZT9NWHEa9OG_HYaMV5nHYzLN2L-_H7TDfGtbTuN_NOq1kuoVxxmnY",
    "iTrxbBHPxJ0OxtMIi7ie9VrdrOj1izhqh1HcwjWtGM9thb1O2I6fTjpb62k2XSQvxnVcj_Hhuq24f9LBZ_KHVwR_2crS",
    "KO5ExWzSaz2L-2MY0SzuUSTTnR6ubYUz8TTuVcRxpxGmaTfstWZj_Jv2i3bc6TeTtN0N896WLOn0WkmRJkVvOssw1jia",
    "xXvOxgV-Vy_aePcwLTIMJ8uTRgvPL9Kw6PXiEK_bHjTxma1JZ3o2SdMYP58N86iOzzaTPN6IOdvayWZD3HCs25luY_57",
    "eNk0C6NpzH0Rp81O1ovb_UarGXMuOoM8a2xNGlkn6zTiFOvUwppESRw9hfXJ-2ncwryFW8JtSaeZNdJ-PQ1nizQuilaY",
    "NguuIe71YtaJV69a9ef4p2hggTZDjvKwEdfTPta_n8_G8dYmvm9BaKYxT1hErDfG3oo7mJOtW-NurxsWuGnSzbOs_dTm",
    "Z56GvHQ2D7qQR9wUn9kax91mGk5DfrZidqIm3qeH8eZY8x5kdku_3e1htiLcD2PA7yHBkEWMfrAVc4V56DWxLmG_l0E2",
    "8rEGZChMt0KuuzOYkwj3b0PWsaK9Xj_v1DP8gZxgJ6R5VsT9PF1eYOLzLI3xUYhir8B0Y21jrGMajW3pTmNrtGfCfIDP",
    "9CDLnQICE-VZ97eQ6UbWHaweW1WbHA-nih4mIsVqJHgY5qeLfTY2nTQxB71GUfz1dB4O8ITOT6Z7EznWA2PspXjPIkxw",
    "uzDCMwKsX7ola3UgI1u7WY53K3oP_2bdaAS5nByvT3WzLK_zvTGHvxnbNDYLuWljvz7S3TaxAWuZh52ts7j3bNiBDKUU",
    "pujvVv39RDfsp7OY76Kfx_9q-cM_ng2TXhtrA9krprO4mMaewNJMdzGWH42OBinkp99Jelg33mcr5LA9C_2xrZ3WCu5p",
    "vOIjq7rbMHUY-yzeN0ubWQf3TNIibOK3uHPYLRrQAznu3Uyz2XpYHxTdsFNgX_wU4_05_mDrFJD9HvZdOptsTaATekUP",
    "gpMneP3p8RR7cDYOt_awFk9C52DfY046BdZwK5Z7kPc7xZZ-OoAm27oa95vOwnQaKqDA8-JoOk6itbUi7hU_w-_GthR_",
    "_VOMOWkGy4sswzpCT0AOe_16_GJMaehgHHEEme5hN2dYOohX3l79y-62BnRAC_NexzhehCzPZJjksBjk2LOQybSLMSaY",
    "rwbk_1E8awvWvhdOF_WkV0C2Umy-3lYosA5kdxITPI1J-_Wm556N-r3Bs9QvYRoPsj7mvYcpSjpbwhdfbFA3DeKimRSt",
    "2dnZsTwpcM960c3jmdV4D3wfP4IXewz7McI4Hl21amUdaw4pwNjyDnRJVM-2jTXDJE8xHswX751v6eOd40YraS7_URdy",
    "Fs8k6b9aXoNM5O0Un40gD13o55WrVq3iW0Z5ONvqY1N0s16z34nq2EetPG5Cs6Rb40HRwz1akHfsfej1OF0NYSz6SQ8f",
    "TZ_ftKlGlY81Gfzqic01zFkcJpA5DimJCkztRCecGUxjQ_SSbvHjv_qrv8I4oBujAfZ7sWIieLnb6v41dHeKfZ3O4oB5",
    "sbVm7i_Gl40EUE7QV-nYyMi6X-A-3X7RwknSw9RMNCADfzE-Od7CCfcLzBF0TC-HDgt-8pMAp0mK9cTpAqnCINoJdNTW",
    "pNvD-uOMwvmQxtOQmS4W46eY02Ujy0YalG_ohDEMZrKeT8XYoG2s9XQ_gZ5OsVAFHo1NElIjZe3xpD39kx__8pG0j7MW",
    "98VUTkCoBtOQt1avTS2RRnl_-snnn3iiA_3UwRz-NYQ1pRRi7md4BmBvYf4CyH-ex-mgjjOogKxE_a1xJyzCRtiNZyEb",
    "0_20ufmRR9e0IGuQ-940dAqUP86-fg59NViN93_44RUTKyZqU-0CSivB_knyqIB-qcfYOdDjm1f_cg2WvuAGwPunP8ck",
    "NiEP_-f2D4p6NiigQ8Zwi9rG5zZtrmM8W7F2KyZefhmH1wDzFi3_zd-s-H0_jLA286M4cEfxPyj9Lj6zDHZHb_Pqv1oz",
    "kzSg_aJBFNd7U3gx6LK0E3Oc2ezm1T9fE0G3xTNhunn1L9akmH_ILcQxTLvYP51sJsR-KKbjThz8n9vfLrImdFM77iXS",
    "48Vk61Hoxn7ehB3QxVky2cuncOYmK1760XL8G2Nci3XIE_RLvmrViol2km4NRkenkjzrwM6JIuytWaxTkSVpt98rxrcU",
    "47ANBpsfeWTNhk2PPbv5kVVrwihsY67wrEemtkAJPrwyeBhHbG_zI6vXBHgfnLNQ9UnYhm6ZHO9OFVk_fXrDs09gP8Je",
    "yTEHP10z2Vo99UvMLVTA5F9BTjev-umaNmytNT_9-d9CBuKk02j9G9hcEC-O-f7DK1ZArnOsyXSMMxWi1YHd04nWPPqL",
    "v30ha77w8N-vmIBsrcS1Cz3oxAHthmw2rWMvrPnZz__21-FM-CieN_LSyyN_vv7RP1_z6E__dkvcbD7xv23cAF3amklw",
    "3EG0C9gXuMeD3_d5hmI_QH5wVvUwd2N1yGEEeW3BFoG-gI3U6a159Od_-9TmzRtHH1m1upnhpMY9nnj28WAbFM6an_30",
    "bx977vF_E-EeEyMvj8TbElz_s7_F-VZAdnoPv7xiArZID1t9IoQ19_LLk-N_l_z92NM4f7a2__evZ_GcHmQujKIC2iLF",
    "dtw2MfLQy1BZWQdrOYaDYdWqn63AXAy2QNUXECrsWOjZrIm5WBE8smoVZBx7GJMB8w92KvZEPmhgXXsDSFYMmyLJOmM4",
    "zBo456bxXJyJYz_DPG1sjT0OfQBTT_ZVB_t6K2QFJ03YwXm4DXLSgNyPRDhzG2nSXQHl8wt8DvOw6vHfPl784u-nJnvY",
    "l7SAk7_8yxWzWDcYGVkXh0fW7eHIT-Mn1_3rAnLSGX3k55tT6nPI-m-efzqo91PY5dnWiZeXjTz1xLrHsedWhPU69HXY",
    "Wb76r34J-6xFpTA5nkC2oEv6tKNhJyTd-KXRkR-tWvXIig4M_b9b_fcTf_f3EyNPZ9MBzpXespGHHsJ5OY0ztV2Hflrx",
    "h2UjqygTWIet2Zr_C3oNcz21rFgzPh7gg9CKtG-nl6_4wwguDXBuPozX60b9EOdf2Bv79cZfrcDC_r6f9fDvCPY4NOTL",
    "yyAKP8Wfn-HPz_HnF_jzS_z5q0dW6b_V-PMI_jyKP7juEVz3CK57BNc9gusewXWP4rpHcd2juO5RXPcornsU1z2K6x7l",
    "_fCz1fjdalyzGteuwmdW4bOr8LtVuGYVrl2Fz-AGmAz8wXX4C4KGP7_En1_gz8_x52f481P8eRR_HsGf1fiD636J636J",
    "636J636J636J636J636J636J636J636J636B636B636B636B636B636B636B636B636B636B636O636O636O636O636O",
    "636O636O636O636O636O636G636G636G636G636G636G636G636G636G636GN17Ft_7p6kf_CscSXh7_g82ate8egzfR",
    "i2l0dWHH9LIoa8Eub0BhhXcvZPUECvrumTAs7p6ZSSKcGwUtrgx6KaNHgq_DBtY2SrZk8N0y2KkdnMX0KKBNsWPT6ez3",
    "_btf0Krt4J44I2AKYOfgDKqHW_g8inMWTvfDbh8mZifDloTtDR2W9hMedXByBhn8iRDKMe8meH4dz0x5QZpFSYZ9kXNc",
    "ybfffHv-21v4c_vbm99t__b8d9u_2_XdTv3s8rd38NPb-O4qrrqFry_pu9vfXsHvbuMnV7_b_e1HuPYy_rvw3UHc4eC3",
    "f_zu4Hc78Nuv8fXX-Pcj3uPbC98exd83cCd86ttPvj2On1_-9giu3YnrPtZPb-L-5799D3_exp-PvtuFn1_A8y5_-z6e",
    "f_nba9_ews9u4r9P8bld3175fsf3B-599v2e73ffO4k_177f9f0r-H7fvQv3zuE3J_H7_d_v_X7f9698vxt_duEn_Hrv",
    "vVP3LuLrV-6dwGf36h4Hvt-Jz-zFz77EnU7xK117AF-_gmv57657l3TX3bh-9_d77p3Gzw7gmj33zugTu_GbS3j6Jdju",
    "RQ8LH2cpvOke3HL4wVgdWHX0-mly1Gkf5vxtwdOfnj3MH8gQfIuk0UzgOdOozLt0c3FEw8qDtwWLDG46VEIewf4rYhi1",
    "_S4jBgXDBQXEkU4c3P1ZfEGXLTcFDMOQnjv87C40OmwfPDfOczjGHZy9YT3r9xgXgGHZS-kNpnL7e_BJoM3ghMI6zKcV",
    "Xijkm1N6aDY34JY2-kUDTk9Opy-t042hiQYfRFIWMioBvz2kv9PGswcJT1ZGCwqY3x36obw9Hg9rA-cMzCHYBzjkfwKD",
    "cQLvARc7yxtxlwc0HWmcaNNJJ2ziEzhLkx5syX7MaAZ-AbsGR2e8rZfBdKWFjDvjp_hspwcjvijq_STtyfXFIRDD-upH",
    "A2zGiO51JyroauJfTF0LrjBDLgW2Jo41HMe4GKYPQwER4xQdzNpMDCu3aDWTbXCvMaBOBusvZ-QFtinsLJyRYZrDwc7p",
    "0Ra_7-N8xpR041a_HXZwSjN0kSi-gNMZp31Ux45swLVpULVgxmGjt1L4RR05P7NQNTEDOgWjKUXEW0NF5HEdrw9vvt9r",
    "wU3CZ_G4ApPda80yPMOXjiB6DdpiPU5nv92DP0GlkvcYTBmsh2bYSg8uZ2wJCwpPNQ0HMS2PfMBnDPpy0zlNDUxsD4uX",
    "BzBqKVfdfpfucRF2u-lgA9e3Drtqut-FcmSchNKEu2BOC7rjBRYoh4LC0lIRbmWohW4aDW6YBkUfH-uG-ixuT9nqMOrS",
    "odAwdhRHmymsHHjxK-4AqLYO7ANGczJMbDOE_DKuNAj7EEKuVoHXT2PGKsb5ghGjWUUEc3cAryylsxT2tvThvvZajFHA",
    "ryw6HHSdYYJGxngCg3F8wZgRkaIxaPBvGMcMsBTUrFtnucyw5-JON4kbNOuTtIkXjelWcufhnE_acFlDSkcCJ5BmDy6H",
    "KDNkF1N6sP36jVad85xnA1hFxdYYiwcrBu9HscAGCzgTMNZ7La0oratB1mxCJBpZN-ZkwsXCFof1wJW2qBzUQs54CM6P",
    "vJfTmgrhi-NVsw4WVEoGLgbN3U1UGU9T6iCr3UHWaMDVjJu9NbDbixakuMc5gEvJjcO4W9HPYe40-UgKMBaac9XvZRNY",
    "nV48Rv-rzU0CZy9M_w0lp8DD8KqwbjHFs_gpnku3twMtmDA40Wg9z_sxFAkNmTdaNH5iRvoKhhmLKOvX4UkNOo0edhO9",
    "8GwWaxk3B9wG8F7gFtMvhSTMYEGxdxmtLNZzX26i5qLhPdiiSCP8qBR2XiNeRQ98E9VmF_szZdwFRi41gjQ1HHgqcwuC",
    "Foz0FAzJFSGDE1i8IqblSj3e0aCxAF1MIb7tMcRaMMbG3w64weCTY_ELxnqpuHPu7s40HOhHp7hk0zS6x9t96F8ucrSR",
    "mxPXdaJeBu0DMyKJljMAWmdEhBE_3qUJJy2heKepIr6DpouvwWnCtcH4OFywMKKDNj3o9p6glqe3OvEEhZWx4FqD3h20",
    "Y6enUC7ci9oUNzEs_nCGQQx4wsmLcTENw6OH4f50Ks8YGMZvB7zBSp0dNGmiRs6zI5mGEz0LDR2FEGBMSBFPMSITd174",
    "zaaf_PjRv5qgrbvtBQo1DgIMrbMFkr8l3DYW0msosGVaDL0FjB3TeIc-7eA07YQztSkGATqKejGaCLHAbEDfZ_kmnj20",
    "MrGCUAqMExdbwq7UQwq3O4HMYafkIY8cvMcjUyF8ONhe2IzYRXlYGx0f_x1DoAXjUAUDx8VGbmK8Za_FM6_D4MRfFxhA",
    "D5uXIgjjixqux_BrEysT4yibrU1h_rGx8z51LA763_I8f5KaYawT97gkI3CfB8EfRhiRZMS8YFiLooLZjiADv-dk93LF",
    "DOtZzsA_dAeGC2XLuEiPUhkn-SN0qRTPZkyvWM-Njd0NDUeNzjxBwYASA6GYa8a829wuPNWoT5NC4e2oT9UcbwuLZo7d",
    "zvDIypdekqPSrWGsWDyGJWoZwwuT9Xx8qon3ygvG5KK422sFlgHANm1QyzPboODlBHTMdIdhqmKWo-JoJ6Bc1tYYvsaR",
    "hTd6Bm8ejI2NTY7DdO1M1_nSTIIEjBxOMK0A8c7zAbQFhD1u8qyYjl9gHmSsTdmAGRLit1iuLjMoShRMjvfyKYZ_Cg4-",
    "CCEhVEB0dVOosG3YJQwatJilKXjgNhhrDgoo8QKmWkeh4SJYDkllED16gTYEQ5-FbHeK0FZlYrQZuc8jBgEmZnmc4N2K",
    "ePmKiVrwGM0jfLS_bQvD8V3oxJRBnqkVE0lz-SiVbBTCcIR5VcRP0rTC2zPvsi0uNvOoxCHBl4nbU_Uwr02NFXljbY-a",
    "AQpsba1B67AFWRs88lOpvl6_m0AuB7TDutj0eAmIhmLVBXXHGBR6zPRBnDI-WIw3imKcGYgJpiigUPrNZj3BTRnZLxj-",
    "W7UVOy2EH7tshFF92DRxP14b_OHliV8qCsiUyh_o_4ZMNjX4vgnEqsX0VpBzP9NILRhZrg3CVpatYLB8HS1QZqsKbMTV",
    "U_CB-tMMMMtLX0ufpXh5BWaQgc6JLrUKQ4oF8wvFqm0_X7WKWYOa4rh1Hh29EBPWTqDKaL2l2GCT4wwu442gnEa5eBSp",
    "MbzHyENtbpIA_v5fPbnuX0-O59l0nDcZ1l_PPfMIA6ZM8hSMJE1iY_Z6jMUXj3AsMME6W1cEL70UpIwMMpuT_ngVVFoA",
    "cQqYt4tmOeNUcBNbwjX_r51FAqmeZOQ-h-kwYNoD_hvNX0xYt8dz5jHqzhXBj9YGEW1WRj0YamnjONoaD9pwL1Nm1MYY",
    "xg66tJ2xpzsDRhILWji11ZyOWRrkjGC1N21e9_xmylaQwI7trAzgyzOcMEIDd2wmgTGgUCr0Swf7EqcME2A0rbNOl_uX",
    "e2YkG4XdwqyEUi0FT8qAwbcOoy5_CKOsHj_MxUyitatX8UCYYLouGHtkrJ0wiVZj2BumBpZnPW2uOtRh_AhHikVe8Zf8",
    "4iUGsbH_cBK3uMVXP7KqFvCIheqbWjbCA2JtlMAI4I7HLzDh1J0jP242m9hEMFlo4dVoPuCwxsdWMPq8WnsBdla3YwFn",
    "-ENcil1MVTQ4iTW-tLJDxSj22mhER2vkJ2lvgpHXYs1Pf_m3k8zdjuZ9bDRmngIekLDWt8pV6BZrg1ptAocBziPO2mpm",
    "JKD-ww7D6Bm14dps7Z8_8mRAbQTXvB5PJu3pAH9qUyuD5paCXwU1zt8zm7PuY8zY1TrxbDp4HGuytfFiLFs5SWkrc5P8",
    "bKoZ_r429WJrtNFZvQqrObq6tmKCVvhaZgtxvvXTAXVJwWDSBGZv8keMWKQBkx447JZp9YMt9CW44wOu1hh27rKRWdol",
    "zH0UfaqbiKmOOjbN1h73FvZRLWCOFvYzhsYgCPb37yGj_aydFBl8EejQKFZuh5GRotunA3r3Qsagyd1jvQQaF1ZAL2RM",
    "RGY8s5OQzD70DOMoOYcW4mZtqFSYq20cWVn4-_7dM4yqFMXdi2kWDvpR2IyZfmA0BIZRj35mhlH1soIRlkISzBxtFjLa",
    "kfanmSIbZExNWgAEM0ILAHJRMKbK8YUY0N0zBccSwkDrRwra0HvPYPnGHdqL8Jsiblgae3F-9xjMIr5xI8m3ZIXCNmFO",
    "ywqmRb-btRhGlRjgaTgzYJpnON7DosM0Pk2zmK8aYgfGTK0ligNBlTSSsAnTkumjBOYeJrYLTZHV-3hNWtd5CBFL-W1I",
    "KxJWTv4i7lunE4chQAzwoLsX2xlfMtvCb2HX3L3e4iWcgwHM_0bY7m-BjQxrKG_2eZDgQdk0_IMwmYZdPMN5YQALBh8m",
    "n2uJ6W3jOZAtnNdYO4asOp0MCgwGVANjxu5hCLbA5CQMSrVwkuVFBqMXM4VZxWa8e7EDzfVixsCCYlPFDMccdrMBRtqh",
    "kYUNx59lDWznXOkj-EgYC5VIgx9jWKtglKRDoencPUafL5EPBN8JYtTQcEP6killA-8OPwDDwGzAuo5pJsddnMQ4Fnkb",
    "fJpYCIbFYN0yigYZmk4ZeeOjMRHtECqZ3rFNYCeBVP_enlGEdIIaWYtBvZkk3ALlCwv67hc8cyjyOXxiyM2WEOINeYb7",
    "FaY8keM0phsMay7UGsJYzYq0z3Q9Fhm3Sjlv-AQ97JxxQgkSYQwNJjpn8HCMCkISZTOwmQqG_YqwXc-YtI14XRLSttVe",
    "CIs-vHYYyFswu9D9dOLwekkjxGTcPbMl46OwZGGsPUVVgG2Q5EU_TjmCrGgqYsMII5dbL8h5hOfOeBRXNYRHltEsCym7",
    "PZ4NaZwQflHPUoYwMWsQQhhfHNDdHVq3BnEw-AR8DQgD78gBHeNK4wbMSzH0SQ3yBaWTm537BG_CQymkwYyvGvK3etjw",
    "uBU1C2RtgHnDIqVtWJcZDUgFU-lWwEJJ8Fp8feguSDZeAgqfugT2fFfBWDlsoZRakTCNyyWjvwHDHIoHP44ZvtlCyzEO",
    "GZItfkJfdSLKeErjxjjwafT0LagGGSoYnBsUHL6OizqTMnkeywxvMHvd79LxhejBsaXu6bdxbOFTHbi61Dw0ayCB8Ay6",
    "_TrOS3yKeBnYUwXlvI0tmIcECTE4VmCf5g28UK4ka66IE7yKWKZETChOo6XwBNaHQcc8nsaokh5xLti28JQ4TuzdLO23",
    "O_S0cqhFetwKGE7FCSMXMKSne60m9BvczpwhcEwc7DpIMXQtdzFeIFZ0rN9uYwbomeec3TjqWrBpG9yzqAtd1xjoCOjR",
    "y-cWhQlv2gTnLjQJvDnYEtORnEsFugoFCWFJJVjpWbnr3RjCGHPjTQ-gIfu0dRlIaGJz58QZ4Q4NSVLWbMIMxjbEABlA",
    "xBHbr7cZhmAsUEHWot8l-gc2Wgp3iWGiSAFemGctZqr7un8LkjoLocGbKmZbPFffEjd6CgsWFu2FWEO3NFq5cFttjBAC",
    "z5hdSzLW4WGLceIdoe4hanxX7Lff90MG8nrUOQywFQxAcgX5FsK0MFGF8cOtpJeNucqYXIYHhftg6p-mzsHr9BiUwtxS",
    "bbdpwcfQzTFRQ3HUy6an01hhaMg1s8eU26TRwEEKKaJd1R7wJJsNez14I0pe95oKcrdkWxLdVJsipi2OIO_NfqqdPJCv",
    "qogJ1x2yANlqYDjUTtMWhyzibQ3CUBgBmOa6YjwtTUYTx3xPIXGLcBdYL4wNhwPOJ-I8snyGkhk_rxnjNoeAcVPSuOA5",
    "3MCbFEQPwODWYtQCGn8MysS9aUV4uKcoQJBJWGdNGgkDqNC0LUXDaHEDbjJ3a9IR3i6ktKxX8C7TKiueC60SRWn8BDOQ",
    "VIezDGBOh41BW3sci92fbhHbFcvYjhmDn046HHeIkynhs3AgNGiLQ4EoVxApTkbTntiXkOPPlE-V_AzkIhIOgWOuQX8T",
    "egD7vRXF1NS5ZAk7ljZAH-qi1yZWcJAoMqm9Fit0Xzwr3RL1qR8smqjcQUHUVxzRpLDAElyhJMXOxexNM9rO_G5de4eh",
    "PKKxsHWKX0l3MSZLz4iR1Ybmqq4oK6zYPOxCDrB6FguD8qCcw6TrDfAWlL0uPMfeqA2iS33bJuRnmhFHHPB9qGPoeuJb",
    "YPzg3psaedLtYQwMzlNI6dVA5UUJdyoDYRR7vuOoogiYR8wDpBAKIZQMMJMSRwyuxNF6zSEmmAG0FoMVYUp8IfGEtQD-",
    "DfQG5wS--x8YtcEAm8m2TOmCpyTnY4THLG9AeVACaF_AXMPLpyGsrtbz0oQ9vRHzGNznPeigSPL_mHY6vI9-b6DQMPXb",
    "dNbbJA0WUtPDUpNEQytxtHYiyCPucQXzmL95RhpepxBkm-H5TToLpOYLjiCOftKpF90JBvWLWI54wKO6E00ybBswP54o",
    "X7O2hs0K20LoPthKM0JP0BtaE2xuxUHEiNq08lLFY0_8asOzwTPYEjyXGahvyB9oSTOHcik26ClUPL3iiTYWO94kXYr9",
    "jt0Q4ftGz9IC2DvY6Zu0L8ZGRp7rKKgTR3RZalMbYYcnXQWzipaQCVg13OE5aYlccy8hLjqKJ26StoliBm0Yvk0HwfJ4",
    "bHqsHreIu8goJ3gRCA7zALFQgPjDrJNCu72CZqHeKiks_RQ9Sgf_JZp0Uchoa2PADBAOOWFf4dC_SJQetb3kZ6oeD6D9",
    "RhX_p3bq9nQaRrRnOvGTWcaAQEj0pwIiIy9QZdcUgZUeLopaMA4fbkzeWCZkqiQhf24b0WgcHxYY2iyZ0c7tNIWyetzC",
    "sfRHa2G3y9MMm6c2peRiQYzr1oIIYLlgDUZscdrgnTHaeB0OdViJnDYawVjPjTphJ-s5xjLLwyVXlk5xmTh66SWGhfj-",
    "tanETjHssXDAnV-bItYI-iTuwP-EXutTh8CI6yjMX6xmZPAlHT-cQ_xI2ZQaIzd4OoVogm8S6iwL09XKMfAnEPKciZIm",
    "pqO3RoGHQBmvsXU6BZRYKgpL91FvRE9ZcJ_xwPw3m58c_WVNqcfgMZ0CY8HvYN0wUZhkihfDfusQG5TD2uxt-dd9IVUo",
    "n4q1wIKCgu_BCsI-gGczzRXn1mSUJPhDUuQhJjocyHpp4JGMGtamWtIYnAwm87i_lUIqlE-d0DRECr5OwlPQ7uYajo4S",
    "2QoNlfQGeBmiRfD5sK9oWLBa2Yys3mN8mnZaESrUtTLY0GkwUBJHA-2gAGcIzhcljseo0eNIGaHBCxTWsSdl0TFwHUfP",
    "6MRMizhImhtls2Gtt8aDFRPC0sq1npZtpvRy8bhs4JcJ0v0Dtg8ufwz3nBxvSsKV2Rxryh5WjqKYVKSXiZtgVRc_a4cQ",
    "OgxLLnAONwC-m-yTSPm4gqiZpPMzBaMYFMLOoh_QGaNBtDycCXvyATB7L-iVJAmF9maoTPHKpk43WV_CotMDxjCXa3fk",
    "m2QHUnZ552hQmxr5Cyq7zS0uM04evOkWmjQDYtknx5nqbQ5gx-IWCfyZfKAU7tr10qIKxAWhMiwvyIxjGjaMqJdmcBY3",
    "MLfKt4xskncQPM5gcIOGSa7Mf6GIdrSO4euACN50EJX55doUawA4Tio8ZdMLus39QngEBin_7u8nhEMYm-7D-clhHxDp",
    "yhGuYXY2jp6jcREwrVELoOX6zMhgkeEiMBmmXDNmCWZKE7YLTrT15onBYYYWVUp4k06fkZHfQSv3QohNLnTAGnyQ6Oqc",
    "1klPs1dbEfxlUNOKT9X73BHK4xbP6IzmiUNLsisTkDqZaara1IxgB_KBc-UycULBWKEn2GNorSfbHouHk6kTzkxtJfy5",
    "oN6oTSk1XaxVflgJ4aClu62yDT8ysqETBIJJbISfujUZ1STiGdCDj-nEV24wGJUsPSKdwxqJ2tQqhVyfk5YblXpqU64g",
    "GJRb4hmDVdqOgcARhbyDFbG8P1rfSU5sXC0IzEnQnUe1-XF-PbGtu0YpVdZMJB067bAYCeQolNdYptR3MPIQ9-AUwWEP",
    "4efR1Ih-O1IPW8QN5VykaSJtsSen4dF29Y5F3sXfQszsu3_1zPy7exfObr9_662FazsefPn2_TvH5necw8_nDt-a3_fm",
    "_Rtf3b-6_f7V03O7v5o7dHXh7LGFN_Ysnr0-99HhuUPn7t84MX_ktbkDx-bfu_LgvUu47P716_evn5x7a8fi3tNz31y4",
    "f3PH_asfzh89sXDk4Nw3J-7fOrK44-2Fizfmvz42f2T_wq03F778YH7_dny9eO4V3JbPvbOLQ_ryk4W3T83v--bB5-8-",
    "OHaZH9y-e_4Arjz34L2zDz59f-Hw1bndF-9fPbh469b8G0cWLn16_9YdfGTxFkZ1Ze7IqYXrd-5fvYErFy-_Mv_uB4sn",
    "9zz49M25wx_PHX9t_uKpuT2v8uk3jsy_fWXxvUNze3bPnb02__qpxdfemLu6c-7I9fkr-zAPC19cx3vNHXpz7uqu-ze2",
    "37-2b-7ErblDBxfePjp_6cbc4dsL-_fytxfemft85_zHR-b3H5zHZ989_-C9G_NHtuOL-Xevzd08NPfqe_evfzV_6I37",
    "tw9z2Ndfnz98ae74h4t3PsCkYUIWbhxdOHriwY635q9end93aO7anbk3D8ztvnL_xru4_-KxU3Nn98_tPrXwlZbj5odz",
    "b76_eOfw4rFXF3Zem9t7Y2H_vvmPdi28fXnuzBv3r7678M6ri2dvL549Nrf7tcVL1-bf-WBx59dzBz6Z232Cwz5wCrfF",
    "ys69swcrNffah3NnP114_Twm7f7VA_OXv8G73L_1ztw3Xy_cOLSAz57avnju84UbexaO35579frCBzfmbr0zf-QrrN2D",
    "I9sXP99x_8Y385_cnH_73PyrOyA2Dz7Y_eCt2_Ovn8DXc2evzN24jsHMQwAOHXzw_u7FczfmL74zd_vg_VuvLdw6i0fM",
    "X379wfb98we_wGzMf_LN3K235va_Nrdvz8KFG_Ov_xHvOHf4k_tXIVfH599_C7M698brD45evH8Nb_ra4q5bD7ZjGvfi",
    "Mkjawsk3ISSQTPwcD507vnfujX0QnrnjJzESjB9Tt_DJ2wtfXLl_9S1cjyl9sOvUg2PXFg6fxdMf7H118c778--fm7u5",
    "fe7kwfldu-f2XMasLr7yJmSScvXWjoX9r85dPTt34Av8ZO7Vdyld19_g_c98jv_fv_bJ3JHzcx9tn798aPHkvvkD7-AC",
    "SP7CqYOYqPkLO-e3vw4pwn6Z2_7B3IGjGCekFL_CAPDWuHjx7Lm5o69DCCE5mCiu6a0L8wcPL-54f-6z8_Pvv37_xg2u",
    "zo4Tc9e_mX_n_PxrZxduv87deuHW4q3P7984uHDjtfu39uAtOGOXd0BWsSWxy7Bb-S7nPpp___bC8esUpOuH5157BwuB",
    "bQuJwpzPf_wGx3_49vx7uyGKGPnc7m_wXrgJpHRu33vYNVjHuavvQtLmzu1Z-GQHthXl9vWTc_uu8LOvXp87eh3igbnF",
    "qHA9hOrB3tf4jpDe66_OvXtk_qtPIb2QRtwKk8xdcP3w4vZdi-fegbRTFI9eWzx7BgOmQL59Z-76kfl9WO7rC6-fm_t0",
    "14PPP5i_em7ujVc5jacuQBLwqQfboWq2z539kGt36E0u-ls75j_ZO7d3jx73-uLJz-b2XMQIMbHSaQdx_7lDBxYvfYYp",
    "nd_3LjQMNgJ0zv0bn2HHLZw8hwmZO4Hdeh3zzDd9e_vc22fn9mIY5xc-vwENM3f9begcTAuuhzRiSAs33128DcVyFLsP",
    "em_x3KeUUiz9Eezfi1QOH78yd3sf9v78H8_Mv3174cYrCzf24h0Xzry7cPgSdg1EYu7A4fmPTkCu5j_Y-eDdt6g8951f",
    "2HXmwXuncJMHb5-F9GKeH3z08dzVq4sHLyyeO7Pwwe2565_PXX11_shhysOJi_Pn3l68vWuBY9izePIVzgx34lkK_Hun",
    "5l-BfO5Y-Pr23K0v5t-DGqd2evDl-9Q2p6C4rj346FOs44O9b84dfwU6H-rlwQdvQBSh8R68dQXbjTsFL7Vvz_3rXy7s",
    "_4Jb48ahxTdOzH8DDfMJR3j2ClZ24eRrEDnp4W_wUtx0B47xNHnzwOLZ89AkPH1uHFy8dOrB3kMLb39DUbx1Ye6t1-Zu",
    "vsMj4MAJXIkxcy3ufPlg-9G5P57CrHLpz38ITY4XWXj74uI5Sun8J8ewIovnTsy9vmfu0Ndzh05jFyzeeRtqf_HSmfvX",
    "zs-98drCyfNSJnsgUdyA5y5xT0EtX3977swX0p9v8Xw5dXDu-iHIyeK-r-aP7Jp76xjvxkW8Mnd21_07H80fOL64HTrn",
    "7fs3Dswd_2Lh9Htzhz6Dap3fvmPhwBX-vf_a3L4vF88ex-Pm7ux-cOwGdD5OhLnzh_jQfW_ObaeU8ren_4jzd-7V3fMH",
    "v3qw8zPoBzyXmhD6c89uqqM38GrXuNOxf0_uwZs--OBTbEyem3f2YqgLb1_AmUJBhebce13z_Bp-NX_mM2h1vOD8-0fn",
    "39l9__pByA_P30_24h2p_w8cW7z9FnYingjxw4ovHNuO84Kq7Poebpkb1xfOQJ7fwunGA-iNXdC3FCocLvv-OHfuGp67",
    "uB_7_RxP5D2vcv9CVxw5uvDhK_zslwcXzuxfuH4SynzuY6imQw9Ovzp39mPu8X1X8PoYKkwFjGfhzG3t94Nzrx-d23d4",
    "_r1PeEzgBIRJsP0g7Qrs7n1751_dO_fae9wF7515cHjP3OFPdSZqc-FYP_zJ_JnjC7tPQkrnv7kwd-Qi3pEih_P0m48l",
    "50ch5BgPzpHFO3ivmzgguNmpD9_CztU5wrOGx8q5V3C0LZ7cP3f7Pe6U117ncXb9zNzZVyE8868c5a_O7l_8bDcuwA59",
    "sPMszwioweufP_jsKK2gD24tvHJl8dZXtFIOnODdzp6nJQPdfgzPfRUbn6t2_k2qkbegwY4snriDnYhFfLD7j3PX38PH",
    "cd7dv_H-_Fe3oQFw3FNrYZXPvkoFS8vkXZx0OEkffLpn7txNWll431dvQEKgN_j_G4fmdl_lrB7-ZO7axblD2AWvYFfO",
    "ffox9un8R2_AOqJYfvrx_WsH8azFHTxJ59_ZhxWnbF-7BMMMhx0lFgKJbXtuP-wNHFv375ydf_va3KGd96--Pr__rbnX",
    "zmOHQhtTy316fvHkThonZ96nMfb17YUTHy--_o0m6gu87MKNkws3zty_9QnsEOp_nImnjsFSgiqjvQEdePzog8O7Fz94",
    "ff4tHGdHHnz2OmwM7sfL3-CUp3zeegtWzcLRMzRZPzqGmZ__-sbCu-8t3nmDFs71k3gLHPfQeJiWxX2wYPdBMml_Hj4K",
    "C4Hb6p1DD2BBUbZfwSNoPZ7fRaV9cS8tRliwB04tXjqKA2JuD_YpbnUHxiekd_7dWzRvDr23ePYUJod7FhbyodcefL6P",
    "VtbN61S_208uvrprDlseFvLBD-7ffPPBe19jPiGEPGWOvLZ4cjsV-6Gd-Ag2C5Qk9yDW985Hi-dgR92-f-1zbHAuxOWD",
    "OBkXTtJywwbn5OAgO_vh4s5jCyd47sy_ewaWGKwLnkGY4QMfY-9gNWG7Pti7l-_1xgkcXrRGsHaHz3K77buAk3f-zVdo",
    "XRzZz_P3-N7Fz27RqoEiPXIdU4dTb-7MexBvLDT0J5X8HmzYN2k1ffQpdwSsR-rDj6FYeLfzlyBgkF7tpgOwYRbPf4r_",
    "z39wFruJWuUqxObA_ZufUBvs-3L-zKvzh7-eP3hC58hhms27X-MOOnSaJ-Z7V3gQX9y7eOrA4u3b2F_YKVzBs5_SjNy-",
    "A3eD4Y1nwWWgV3LpErT3wpWvYZfS8scJtfc0tg82O56FUwamDsT1wUdfcL2u84SlHobc3sQB9BnO97l9nzz44Dgnf9_V",
    "xQM7MVGwW7Ai818dm3_nKo7sufNv8iTd90fYaTgZ5_drVNiPb7xOC3D3KT33MnTL_VsXcegsnHkbRwMtjTsfPfjwCJQe",
    "HjT_2XbIGNYCa4ezAK85__UfudDQ1VevLrz94eLeixzPG3toE8LSw1kJk-Y4TOIreOjix6_NXbu68Pkh2vywsm59yoNs",
    "7x7YutQnMFnh4-w7P7_9o_ldEMLXeY68dgi7ACcRXo3284lb2B10YV7dD1VJUYQGuwZ36QgF7OaXkBksN52X_dAer0AU",
    "sdzzH92BrMJIg8rCRqO79P5beDuafAewUw5TRcOneG0vJpzH9PXPuV77v-CeeucSDFEM78H2T6g5KWPvPTj6BfTJ4qWr",
    "vA9eEEt5-OqD945QG-N0uHWBJx28Kuhz2DNnr3GGMV0H5CV9dAz6kK4irMezXBoIvIycK3MXdmPjQHMu3vkYmxQH0Nxr",
    "8BNv44N0Db45OXfiBFQEvRicenBgPzphLi1kGLJHmcFhikMH2v7Ax5x8bOrP9-FEwwJhfz14-wMsNF_hjX2w96DS57bf",
    "hIDxZQ-_ufDRZziXoZrohV0_jePpwfs8zqhR99-ZP7gbavbBO3e0467TioDHhFMYvsmNS9hlUM7z127PffP53KGL2N33",
    "b9yCCOGkwBaDV4XTH7qOThlk4-2jc2_CvfoMuwnmK31wyM9NSMW1xf1fQ-TwXlh3uorYTdAYcPBfgfy8RlW_-ySXDycp",
    "FOOdNyg2UEp33lu8-BlttiswyPfOHTlKU_nyB_MXjsKz4wH0-imavnD6MP6PzvA83X-S3hnEcvsn0DY0WnDNtTvyJa_P",
    "Hzq0eOf83KH34SVxy984yv2-X3vhgy8Wz92mifUqNTbtRnhweOjrN3gG7X8NXjm9g2uXIEXzH-3E2CAD96_egvTy-P4A",
    "p9ue-SOn-Y7Qt3RS4Od-Bg1DW2j_vrmP3lu8_iVWAe87d30Phg27nYKn_UJ__MjRxQv6-S74Akdo7u48u3D2AkwL-ukX",
    "duIQnDv0LnQpT0M4qoevYuaxtWkV79vz4I9H4dfg24VjZ2lXQ1ffPkjP6KPt8BrmP4an8MHiOVhEZ2kFnf1o8dJH0Kg0",
    "Wj57He8-_7q8dXhY5_44d_YT7BGoHZpbX7yz-OW7C-_exq_gmFAzYCRQvF9-wJP0lTsLX56YP3dIKuXM3HHb0XvwE54-",
    "x7-Yv3QC24qW5KHzCzs-g0TBRsUrM35y9TTOo7mz7zMcAZcBlv_hqzym972_8M4Jmr741G24dfvoHN2-Q0P68BlIIP3Q",
    "fXfmLhyc_-QQ1RGcRMw2xGbvpYXTOyhRO96SIfqVwilvYVPMH_uMEnvgIpTJ3KHP546_y_27exfseboANBjeh802d_iw",
    "Tudji6dhpb_-4MM3Fk7uwFxxuk6-gqNz_sq-xUvX5nZfwC6bu_M-DCcGqeCEXv2c6_7Ga3jZhQ9uMjZyczs8KR6jPNnf",
    "00lBSYPGgE9Bz1EeHL7G3eCtyEU9ijOaBj-tTcagaKXAEvjoKI4qrDV2AfXYbsYoMDk8jG6-v3ByO6YRhh_mBCr0wY4D",
    "8_u-phQd-oyxnevH585foNVx5yO45_IgsJF34tHULbSpGCKbu3CBIofj8pWj2K3zZw9Qoo59PP_GkbnzB-cu4DB9nQ7a",
    "vm8WL31KX-mz8w-OwmxjOAg_oTn30YfUG9e-hluEt6OKg011-AA96A_exE8eYL-_uhtaXTG0K_QELx-mCQdH4OBhKZxX",
    "MRjqtPfPLRy5ufAR1gImyqW5UzggDtOSxPy89iVDBzffn9_1CcRy7rO9VIa7LyzuP8cg2O7dDNF89TlW_MEHsJOv4F1o",
    "vcACOXQOPikeh1OSkQd4LvAu6YPcZsTg05u4z_2b78HonX_vEONg8BaxKFg4LPQZ3PAcJOfB9p1UsK8fxVrD6KIaxE3e",
    "3QtZgmm9cOMOtNzCKVpBCzf2YcbodOz_An4cYyxvHFk4CCPwMFb8_tUTVHrnry7eOTK35wO-8pH98GQXvsQ874f_snjh",
    "GMQME8WRn7i1cOMj_HDutR10bO_sWrxzGC8FRwDnEYNON9-fO3CHV2LwX322ePnQ3DV4KG8zmAk7AZvrjTd1Opynoobd",
    "dfY2bEXoHD7l8iuwYLlrPrn04MNDCx9tp3Y6fpLBwPfPzZ97hxLywXXq6lff5S47-yo3Dhbr6OtQnnR_oH5x6O9_C_p2",
    "4e1PGd_4fKciVKfo_d35aAEm1uFPFi59Qv0A2xK2985TtIsO32Y08pXDOnqwRz7DsSWTiT4-T_Cz--df_-M8DL8L-x_s",
    "fVVa7jDcNzq2X1x_8Pm7MJ7pcbz7yoMvLtC6vnoQ13Ae9sC7536BG37_2v4H71-c270fq8941M2d96-fndsDw-Dgwutf",
    "8Iy7fRzrThvy_Js4lCEn9MdPXeCpvfsb3Hbh7RswWmi9XKTTiuOetigM6V23INsM3B37imc0PIsjB-ev7p4_8eH8Gx8v",
    "fPUmo8Sf7Hhwg1YZJIdif-Ho4sFDWG5ap1dvLJw99uD9K_NnLy-eujG358DCnRuL596EEsbGmdvxIS2imzfvX3udTt_Z",
    "c1yyb04sHNw-v_vg_WswOK8uvH6Om_oo1NENzvmdy7RGPmawF1YcZxKe8qt38DqNPmEccWcmIa4vypNIEMk86SSNJOsl",
    "cbubdbP89_240SdQhRnPKBNgtiPAZkG-gzwUcLbTydr1PBZ-ttONcxZhhcSvClJaNJJ-FEbKs2dhv4N76j5FpJ8INZ93",
    "8xjPLeLpu9c7wpEWMxmxHAKWFiwn6YStsM7a5Wkl0gjJLQQt5LCJRvl9P-ka8LEQtrYI0-l-J2xkeR5nVtxJSG-Sh3me",
    "1Ik-xN1aGnnMBDgTGRxn2K4nDpFI3Cmh5gWBfnfPdOKQuJ1GbCBcYUcFza2HhODmwsJiPH3i9ITtydoEbKYzRAPy53hf",
    "zVIhAG4hkG5HrAChkLwF81BEMzPLHsWs586azLEJ6VkID5OxciIJBc7kO2LGGlm7a5XbcSG0D1ctxwMSwTOZvzUkZC78",
    "ZxERf4N3zBtJ2M0iDILV2r0sSjhQfF1PBSomSgDvmpK_I8kaeVIkWE3WIWGl-rwDvo6blBDMSo6ZVXlVHBMYlQlALYRy",
    "FOoOYdbk7GEGcGk8ysQ5ZyYslCsvhFXLiFmy-xMNipnKhBsshLou8LIJUbasGRGMusjDF-9exDPrCd-0T4xblsZR1os7",
    "WF-87N3rhdB5RMsmnZC4JoyXMxM2CGvKGnePRcmLwn0S-4dPqdor5Oq_SAlP0gyryDFT5PO7X2xL8Iy7F7vxi5SqKJy5",
    "eyaKs3iGuctuyCrgdkwIOaGsLANiuUTz7rFGkjbCOj4kRLDgqxHuiU9nW8Iu3kJg2KIuCRFyuhCMNhdauNPUbGOtueKE",
    "-hYq1-Wb4t3rSVoPM-4ICA53ZUEMUyh8Y5R9e-nbG98d-m6vquSvf3sef66y6v271_STr7_boVr5i_j6znfb8fOduuby",
    "d_vxZ5fq6j_UTy7gq29UU3_DKu2__aM-e0dV-Gd4N93x5nd78dObrNbH9zf4N6v48dnbquq_iKvd7799m2P79iify9_h",
    "fqrgV4X9zW-v634Xdf-veXeN7ea3x7499e0b-Pc8PnvS3kKf_Vq_xScx7k815kv6GZ96U--rt8Zv_6if4Cnf7dZb897k",
    "GOCVl_DfLdz5j_ZENzbW-v_RjxCf3eHuwGu2444XSsaAq_jELc3px_qPc71HTz-va4zHgMwCt8UccBt35jiNv-D2dztw",
    "t0t_Ov7On07s_dPxa386sU9fb__T8av6yTt_On5bPzn4p-Nv_-n4-T8dP62_T-m3h3QB_n_nT8fP6FN7-UH-BNcc16eu",
    "6e89-uA1XXOOX_Dv27yGF5_A11tC7mldeYT_56d2_-n4V386_rm-fu9Px_fpV7f19SHd5KyeeOpPxy-7e3JUJ_zfeNb7",
    "GskRf5_tepzuw68v68pT-skpf09cv19vcdbPwFldiTF8rZ9c1d3O6lOf6ydv6VN79MOvdMEZ_eQr3fZDfpC_OqVr3tPc",
    "btfdtt-79v0r3--_d4J_f7_33vl7J-99eu_svQv3rt07h_9O-p_jz2XxOlz__sC9C2Jy2EN-BlxPDoY9uP7CvSu47pXv",
    "d32_F9-fxE_3fb_7-53iebgmJoeT-jmvIGPDadx5J9kdcN8z977AnfDc73fgZ9_gbqfw9Au68gRHha9244qTuPIcRytu",
    "iQNikrh27wp-e-D7Hfj6zL0v9VSObS_u-xmfeO8r9yZ78fVFclFgPHvundOYLupZF_B2fFOySpwnlwSu_EzcFLtxRxvx",
    "ab0JRoBPkaPiMj51CX_O4Cf7xFZBNoyTGi0_wedc4Hv5z2KEn-He-_CeJ_Hpz9zP9_BpGgvfZB_-28nx4so9985ytvXV",
    "ad1zN5548t4xvd0BXcOrL3NtND8Xvt9JdgzOEudY63JO4_hM12OesXanObv4xB787CvcY7fGcJprcu8rfPUFZmkPrjyA",
    "p-7G9XyL6_e-xk_24B0ucsU1nlfE0sEZttHtxPyc0nuf5AzjTp9JRsjacYxronHsdmu3i4we-C1l7jR-w1GdKmf9omZm",
    "l551TVJxDuPDuPRUzsM13W2v7r-Xbw65uXDvG45B2DDVBhEjSexpP-21CHJNm4bAlllHwFO_KzSiYEoRmTXE7iCkWjMs",
    "WknWmTSMvSAn-QDmjmp6haZnuT7PbqsEKPJ-p6Pq54wfJxsBkbzCJrO6hnWcs3Eq0kXYZ4007ndEvdCJWdW-ldZN2BlE",
    "AxyrVpZfCNA3EzYGuCfR5pvsjUhHg5tGiWoj8ljVybneF0-ok36ilYg0wuoACgdX5lMId41z4l2JkCH5QIvI6NRw92Nh",
    "pJpHMXvE0WwstLNsywaLqqN-gzQ3_A7GDCGfLGdrhB0rnoiKvl5XRjNrixotli30c_FYsMqEhCN1GBcDoZRF3Rmy3lPE",
    "bTkLE_C7dsgy99hgiYWmgAZBh7YCBjFNnB-MnLg3sHoMzTVLyYTJj3owfaZZpkCkbUFYJvFwqWp3aax1aLoTojygEY_h",
    "smScMCeBvlhS11VpQkosk9WSrNyCm-EjeLqWk7xruLf9Mt5G8GzhaivqxGs24if4pkVrvclZr5UTcrVRcOkANqLRPhAa",
    "3wtnhL6jg4B3V7nRdLwJokCmO9qz-SCKG0Q2sViVxSNJwfUj7wemmOQJSY88mwQvTqugLqV8sGQg1pWFAZ3Ej0GOCtW7",
    "krwR5rVVORRWlFEYPpukXZwzChhWgBjgRNUhFI0omaZl3k0anJ51xrnSprPBmQ8J-k1tpa1MxjyiMIXgUiKtemLcYPGF",
    "cJ0wGmPhxoiU5fv1i15Qj62yo_itSWufxQbpIGbRWcQaCQLWCPDXHptJMpiUmEj8nKNU0YFkfnK8n04tGyHolaQCqXhJ",
    "hOdLOkTwEbrJUr7pOLRXIQEajHoh8OOoqzKDTt-e_7i9eyNUWffvbKsRSdtnUQ62UQNSjj0SR-tIH8KSDPo3EI1pLlVg",
    "ODcD9RLHR2lY12fVWW867undVdpScCj4bqMtcSPU_rUCGdYZqNiFVn0jZv0AF1hzXVDq4JmsXa0nPWVKIFgbdOLZYL2t",
    "g5U2RZsoIWH6rOke6pBEFA7cJNjX3A_rWd02LT6iOgkZCdks6rFqSYQFj6PH436vYElPhzIv_H5uPDskk-nNxq64Px0U",
    "9n4QKb70Jtu-0C9diue2VlJPeiz4_dHo6HpTHuLAYUH1DNch6wsF6upeXHHMclNa3T59wFh6em3NIPcBAeci5pCEbJAv",
    "yTWBFLCKCNtsYIUtxehqcgqOqBAhb683ZUVy2o5VBVHAuiytmSZBCmGSpjiF4Y-jX1H6O9DCrAKKCK3N21MJPJd-FM-2",
    "YhMpVoJEm2zFGmGPQP11dgZYTZERPGE3dBJ-XtomHrDOBTO_ntWB01mLlCPh4Fe2w1kxBKFdaSpIIgVRjMlLPc3NOEPZ",
    "LQhMVO0VBJ8KKB2MjYywWACPDSBkEWQHO-AxaAYs7npqXRySmOKAdJMJroo35OKirgWqwLYyjoL-bSJSZlYrPG0qvdVX",
    "wWPSCXgVNEGY5MV6zCDLmVlhGKb13ODZieqsUl09vYY8vGtrVj0RuCIlIv0xZ9jM7aTPKpCteNt1bdKQhk9Eqo3_e3v3",
    "Z-zUZllK0MuE7Fxb42GaxtuImqYU9FR5UCdydiYW41ecj1r5nZXTFeRkwMdJ74t3fxKboZlt4-FGYDLOKjrNUlY4srYl",
    "7X67ZUoOeiWJ0gH0c1sspJASHPAYJ2m_hfcuxG2FV8EIYqut7pPttRMWvQHEE08NNpkdkrNCsR9Tl2TtwfNmVmDOdDZS",
    "J1PB4c54XijxHrMpWGdWyRMRT-SgiKe5i5_PoMp7gZVzFBvDRmKqmbUB_W4wK_oiwl3XzMYBab_X6ZR0VRrFC1atR8ol",
    "vHTYkIIggzLWXaQbcbQmEJS3Z8ZQnadu0atjJZpJj7hoDHCTKXgyk2LOoIFxw6KdSb-QJw__JEVAQnO-e17EipRgKchP",
    "vbamow4CTWahGWL-WYrAdRBzaTvmjG7D89tWD5zHVhi0JlZYLcIkBeQFIjw7xB7WkTwbDjjlwbo-61ityqxYb8aXVZUV",
    "IoHDOU7StEKlIRiEGDCWjXTJaY0TPVdpZIN8492ebDcCiXMVqxlo28o4SQTGErng4Ye58aBA-O44TFPVsEKZQ4fYMW8G",
    "VhxCLLEpWVYtdcFitWLFmIp8VHHccHVIOEkU2rFYWGSg_sBqcHKRrhGnT66i-AmB_KGMddq7Isv1ZvolipmlHehymg59",
    "LeMLVhLBkg7KGQHRtSkq8ZRmoW7GgwC_G4XJudWVkcXRr_ukR-Z51BVDHE7hdrG5hSOuCNrZi7RuuIyJaFlY1hjbZoaC",
    "p7pbI4la2SL9Vhw9lw7aMDReMCVphayFyKnwYjCpOknDVVFaOSPx-bAUFcPtSXloRaw-ViRj6WDaCmFFkQX5M5IaHny8",
    "jR2KJvljZKVoJV0S9iQsrZXqUnUOzRQSEkX9npaK1aGsRjSTsaffT2uvpSxGYA3hY2bPw_rlc18ORMyz0cxJHJHUVqSs",
    "h4g9CcGAorfyxEKVdHH0BPcOT5wmT3uW4sLgYb8CaJtNsd5l1GbpSTOlWUeWNUliQvogURfxuO6w5pJ0WctXrRgnlfQW",
    "sWtTXZgbsakXd1txhwUEcSfI6nIqRM-0bOQZVZ4FnDEMtRaI9MZKlgucK09CyEdGnsE2Cqw2qxCWH-tgWq-ZyCQjSQaG",
    "xoCp6A1ZdQEPRbNEwqRGAmcERnpRbDFZ-lVMsoDgMZLk9NtGTTTVm01kmWUszBiQ3Z30cyHs8jwOrIyCHDL0x1o5g4jc",
    "tNyOqsmScQlVStbiZSPBenPuIOvYk6T0LzBAPj0ICz09wfZRaeEkt8XUJJnvYUjIclg2YvV6hY0ltglZQ2MWd2mYZbza",
    "yg9ELzYSFLZidePMsoLTYDZWWd6qVcbXBnmHEMIMpQYT8weUZ8IjPKgnbKswYHuLgKSmAReQ5Oj47id5iCNhgu0ayLxN",
    "5rXO9HIT3sfxF6wqFu9RPhOWhpAKiE9YZ6rktzDL4H_OQBj5yz6VTNEgBWGY6mgN1v7OlIdYwqBiAx2nVqwSTYYq7GUh",
    "EiYzWAf9myc641rx495d7eEgiVjuMsM3YtnyRD2kYilIzM2RQQPSKYbKwJzyDA9C-pT0PmGP8ma_ZkkiTA5VmqjgjceE",
    "lWlYGUjwpGpdAloz3L6DLsVN1IcN-ortRLyInSBpmtPUs4KwiAKEx46bFqhbtc2o_JY1ZOSU38-y7DHVT9WmMDI8tQcf",
    "JI3l7VHmVfOD32GS-0nvSTUbiFj3xH3BcyAsxI9Xm8Jbcp6tTBYGJDsGTLEtRlBXlxEsahhIa7XpoOaDcVVOjTXNBIiw",
    "JjjOSE6Dk61hNrsoD-TL0PtKejrtO32ppF-LQz2Qqix6NP3wbVPkk9QF2JWk9SL3pimUYLaVcbgU0j5JNERMUcDIx3g1",
    "daTMVL27FXQXm8RZEJDGn6uZtbmctJQgVDz_8CArWpysD7iYwbNmom60YIeVvJJOk9uDhUs4yzdhe-B-4nRLBxt5MkFD",
    "ZgEzWPRs-vSS6ZQWxpLAmmGeToWqkgu2UME0kU-IXlaouiZ67FA6VkS4fNQKseRG1Kbo9fSS7iZznY3poNjcz7diECJO",
    "jfMxUWgul10wMlI3GRR1HdtwsE7TMT-sfZ68GHmkavJ00GUflERuceJLiEZU6rTmx_1UG0hJs0KNFKTB4Ao0RA8v0yFu",
    "9F08pBCZKl7scQty2bSOrAnEBCjeN6ax-lAObTlUWCqGpzC-bWK3U3nrshFjORj7623tNJhRXxv5amSAI48AF4k9FXBN",
    "DPt4dHRqxRh2bL7cKvYKNlfBB8gDhf_JrX4x_i3LQCEoKhOFjOeNtbXxjRZDilhdzkiSbL6eGYIbRaURsGtNkHR-Tea2",
    "lp5MA9N8tUlVo0-Fgcxg9m3oPKyWIvnK4AmL8DTh29Eq44bJ8qf6dIcG65LcOA70KhAbei7PiGYltVq_YqMLLK2EVRUF",
    "gdUNuvAPKWpVSd_Elh4xCoziV-qkE6wzP4efbYc654wZAwbigBR3OgOkmnl9Qe0FizcpyB0Hz5w8-RmL0GAH9_L1xlby",
    "TL-AZVL8ztwrOFRt2aaK3vG0xnxuUJ3oSnFnpoNx-rkvhNgy6ikgLoLl6_qiWeQWhbhZdGvlho52HExirthTccAmPVYK",
    "XqxTMnYw8tBDZBx7HE5lDCVkvpqK4WpTLO3GlpHd82K8Dn5fK2wvN-qIP9gG6vZ16xU6xpZb1ePI4-s2r_u74C9oJ8Ku",
    "kF9Ep6KH0atwnVE4sisOghfE9_ew1Ax0mUo5i6S5nGbDhp6G-xM2oZkIalPioWWHG8jLcxbjjM3QZUsc6R7WbnamZf0E",
    "WUd0vzIrmoMGNR93lcWlejjzZzv0qsn52ZmheGqjdqa5YPgdW4BAhGsBPOK1tYgl21nXntDDO1ACrEK2gPPPUZCdErs5",
    "TBt03ldMSFNYsWAIG4J6fkbHv2KHOF7XWfSV3LxxPw8thqSUNrZKmtImmnUvpmOmUPCvOZAiEvtKM-HWxqAbvcfNVqTL",
    "iukZ0ZoGRriiekzc5WlRHgSP8YTNmjwNFV7ssHEMj0FIylYGKbf2VJz8sBVG1gKjslk7a9qUp_zzyfTEiN6PdBh8w3VY",
    "qJVBI--Lv4a8BrUpxjFxXxFuFiSzo5NNx6DvHc3CqoIDbEOGKGQrrg1Glon0speJZOB589g3Wlz4SbM1NjJQQGoeUVf8",
    "NskpWo6QYb2FtTaaNWq18BNdmgrkuggZ8nxa3mpgPCbFug4Mps7AzvfgeQvtPGFeubkfRcOkHIsOSTFTjAEUeT2jRkTz",
    "rNmDqgWFkenZIULSCRklR8EuSzRORBZUSPPVBzxvxdudb8U9IZ8QyAGMT4YC-TvcPDR9xoZRWLiRkU04KIOHxYL8sLFu",
    "FFvjAQnDdfanKUvUcaUYa1dMMDoZzwbG1hOIKxvKNA9YwCwqhQk32gnFXnEeqc67sALYgNGIOG1usqjKk7GKtmd0CMfi",
    "QypajMDiWOoxvgRLtiHOBB7nAVmieHoWj_e3UisaTdBKOcRJb9ZUHrsQYQHCQCXGtTW1Vq_X5ZOxE411YkS0Q-nAuGjy",
    "hjkO3Oi8u-y6ziZLJzDeiQelpHPuDZrmW1DJw6iJza8q-gw0xZvkRQYtk-vnRXHSEX9A0VuXMpwS6rBR1IPulWzf2tSY",
    "zNAoymRnNW1CyL-KaxgPCXutx-3EW2-hY-O8KVbYYYMhODONHeFoJZjqYkxugzmazaTZi9kEJ2AztjFRd46pLUEnahqd",
    "PHw1UglhT6Wq156G_m6sDZ7Bw8fkZEP7mWXcNQKQMBCvNfnXMAVksKcSUPwrqMttydnZLKD3zGM-IFdCQHCLbP1crCSO",
    "5IgMCj2dTj3xAadZP2rmDLXgZs8oWLGayS7Ge-BB4tB7zMLDtPozfYAQoxnbt2KIh_EsDruIbVagMozTIRDRSBw9bXHv",
    "p0QIFajj04CNg_DdQNEmaFMRZgg1RBODTPS1qUIjmGarH8jgY6rKXkHWOix2btxLv8JhzNwZFiDASdMn91pkfAQFyYED",
    "CIuF9EizySXm2YiZCOXnmESKAAAfxckVZY2-JrJFbn2R6ZOZptm3CFRgpBdTT5LurRjwtJc5tQWLGf3G0h4crkIKGZM8",
    "llMMFAxoxH0ZF8Ez5k9bPf9ITGei06vHiq1BF6wnP1qyjULE076dNH68Sv-j4OWMS0UwTQMjGgt02sJigbBoBmGbBmvF",
    "L8w8EFk7io1mlLKPAe3Inp7b7Cs4PaOeS9PGxYQzQD4-sVHwZMXiHTuel4J7LGaUTieKwmgN7g-ycBj12Si7xDBeEHa4",
    "WayyHlMZ0BpbMYZTc_kKBY1WTIg42DYeT23TNsym8jjKE_LyGeVRQfpV_LHILPZ6QGW3XtZ2YexTwWN9OZqOw2izeQXY",
    "vpLvbkzWiuksIivd5nCa8rlOm2oNjy0olufF0AJJJwRLHSihkIz64CdPkxAo7czGAbfEesvH_boPrV60zV9haIVnlTIT",
    "ATR-wbFAxdGBE2v4wyslfPCmMl6djuiEJB0t-UnobdArdGYCjgqaoUZvZaxhxWPkeMjF_8MEOPc9VLPJIJtnBqSfz3Fu",
    "509amGkLs9fwPnWWj42Ze0zTpEO6m4CtU4yaiHw42Pcd_dMzTGItUPomD8gRTA2Kx3UydSiT1EGHDNqQQDkE7G4R56uM",
    "FoLmAaxfs8dr438RTP7o79bLSQvWZgqOBPRdsY_U2i0KzPql21KUx0sRmHMBZYgPzCo52CiM_YxtK0mdwo6QVIB4f06d",
    "i5FKuwWBUcW9rKjdciMSbJFsrZ5tm7Wjzl4sIlfbi9hjQZTBNcktOD4W6ICenR2rYT3rcoinxfiereG8Ya7HAgXOLFxU",
    "vPTSH16emE1kAmTNYtCx6WGetBAnacwIJ4WdrCub87AvRRoURmBnjsokttMmmErrLApubu6YeYO99eYNSiBrwe-SFMZH",
    "u-jDi62z51gfq1VPxK07ppYAy40MMTDewUI8MVmzQ060MF1vmWxy2aWhehVgQtQNIB2MWohn1EgWJ8fTZGpkZCxQeBEb",
    "j1IM9ctA_xMuJi6er2AmCeWrdclWmUL0GNnL-6ms51zBuIbtRhoF5Ovrp1SELW76bKuxJ65ca0K03BGnKc4KC1gk7-Rq",
    "xvQ9I-aS4G_YZzUaODYokvfzZoqlR4-pxWsh9v7JcRp1tG2Mz5EGPLRwK2lTauhG1LGM8uPGyPNPanD4m2zryNfqZcWY",
    "9XmMFHzokiytNzD5WpNIoAdPW6Y3DLQVnorzuvZonmyFJBsf4pijexT5n0t9d9kEEttJkbQ8MP0ZMMYJlw7WBXs8MiiK",
    "TZKbTaTceBAw69Fm79Ikl6bFGZf0_sYsf9jCWSfJjK8xcPSA7pwwSkKGRhkNra1gI7XlCgakTG5Toxirmhv0yo2GGsA0",
    "ssdgwJj42lpg51nSUTBg0tIYxmzz26nJfzsOlcgQEDPSZqwXJGTNYd7qEFaPlbD40drgYXzPcKja1uY9zIRxwaxZl4d1",
    "WHLUwnj3hoWLyC7Gt1UWcNQYA1dClHhukH0Zv-ORia22PuXMdUilxmDctM5bC96KFZ9qxuUi7cTDq5OLe715mEZeVUyZ",
    "26qZYNQPtmc9NUq9QMgKvIq8grFusaYW_HVgnWN6ECemukjZjkU1vsVCJPsYGXuIMIwRUW5oVshKwM3X1ngQWU6KOI_H",
    "wjr8mY7lx5yaUbiBOdieUnDrCpmvxkRXcPclObcu44R0uyE_T5FxOOs84iKXjQatCyMJDUjHz9SpmWkr1EVveZfaDLe3",
    "mCy22a_76QDT-JdBjRYuE5wMu8JaY9AJ8ihPmKG-QN1OH_7Lh3EcmkUcGIcaDxsOx3j2CjZX5qow5x06ItBg0kSKxpaS",
    "kLxyOSnbsBEoLnAxsGnZEnosUF5NDUxE0YmvB-O2f-vTsnxwMHDBN1jPCzUbgeln5sEj3W3Bo91tW9TNZExdkYLQGFTH",
    "4KjQYjF5Hl2rmNwE5ZNHkwhjx-yegY7IYK1xt66kr8POdEYMaARTDJIRgMR2mEFYGGdpJALB3Lj5RwIewplYVmlRN01e",
    "eD52GPENGPbglPO4svzhrJkVsy1FYZnrwi6u51Ps92mxnMAyxGt1SMGC6NO3j5NC8bNQSxSsi9pJrnDvtjiaMPbb4BnD",
    "KG2kXK8MqEnyJKMtxRRirgMW-53UiWtrantCIihLBtP6DfUmUrKyfqWM1fUgwGS1afmzL1ZATjPsyX6vgF4qmgPctikS",
    "Qdgv0D2ZnDQjSiskfB0GzLD92zSbmFhJZCRGiYLaTzI5C-dVkbnlRp7JeGQXtzGcR0Bh4KFAb4IpV-adi4aDGZDMypPJ",
    "jdJRw1LBS8bZPDDuyWLcjtH1eYYBh4HxPbIFA1-sJ3dQCgLrEOukW_EHYseg42RgpebqsVkVTrQn9b-a7emaWjyEAYs8",
    "skFBSypgrxg20ehYMjhvmwbr19WCIY-FZaMpBok0M21K4Ee8WKwOu89ayiDpGB1wpsn4HSlZHy6etbSqSCbDjtIJ9AN0",
    "OkJn0Wgzut4BLSu1x9WJZ7ycf6DZTyZAcahiDwoZMmax_0BMYcvVt6k21SeHfm0q2MSAMoMWMzoCcPritML5ifWj6UvC",
    "YygbvLRl5YLA0hEMmUCsltcef-6Z9ZkBDrXPiYuQmxP8jcE2jFOQSWThiTIev7NmQk-YmdaLnKKWDum04VAx5sGqHtrD",
    "inyZ9DysUxQnuPh9o8cI4YJ_m_WMKkxcYeYXPzKtWEx3vUFIxhwPtdG-CqzQYgKWeUeCDqnrGrqLzjZmKgKDcBE7UNBV",
    "aInMkPgsvgB0g2Hh1tYtzkdHCifm2rUBwyqTJq4johtlLkupWm1GRz46Jhs96_Bgx_E5ZjFE5rDo2UB-m1luBLGBcRXi",
    "tdVnLDMdaaR_Y9SDEjEhtNZbtL4wJmAOGm9DIcWOppWFFTV1z7WjCFNOEryR5f8wsSRlpOzC_BOFIaEnMtMsbfVC3cwD",
    "2MFs9bDBjHWjAF8ZBsrh8OOYimfF_xeoA0ics-s7abN569Dz4s5mipsvNxJjsyqkavCuo7YBN4r3UlMrsyLnUpmX9ILx",
    "X68UzkKw0ySLVjLmbvlbi6sJOKjkusN4kruShutgnQFResobDraaraEjeNkIdxNWJST0Kut0-iQtTdcbwFHBfhYUSVqz",
    "XIYEozaYVFy-Ej9s5OpXZhR5o4ZrLp5rMFXGZg100mwHBIx84QOPW9QhZlCPFkvRYl6NfdpSZu5SCzPh27VJT5gVAqxm",
    "qCcMWqoDxZEbFiZ0I-akjSV0HXEOmutl5-YLYcCmYzCGtpLy3qBQK2lR48VeMAFVszD2H-EMrDS0HQ5YTUxdG6-tHnI4",
    "PsUDH1iOL-A-0zFR0DY2DuXA5KyQNZEPjCS9CCxJtNHwS1AyXDrDkEdNdT1kYp27Q2n4pEOUHgwVHtCMmFlInO2MOFmk",
    "-IXnY4lpYYLSVB32gtDIOwNj_B7jrXmCPR3KrmBKuN97ChMIKZB3XR8wvWZeD7NhUSLi6LpgTAO5Pmlo51ghrstewT02",
    "TfFg9LWTx81-4Xmlg7W_2cTPbLI0mdFiFsrRQhw1A2PUFnieZdpXsh0k87B98UVqO6WpGU_jpldeeMF4WZ8Kc6i8aFw9",
    "l0zHyaZkdJVYLwIuSDMP63DrAIsX_oYVcFGshOaykXU9Mv-GSmH3ra_WYCX7RKd0tvBdbcqxYKrbYhDCXGc0HNLDiRWD",
    "PRbPAbalBAKyogZ_GDH8EftB86VXajPy9GJ0lJ7a79h_OuaKN0LJxFPkWqYmEmjB8Ur-wYSWODrGPJrCpnJC2KMc74eR",
    "te3pBCTNEovTy1njyCZbmFmdpRxAm4Frzn2W_6Yg0mWSpxMNa_LSJsWoocRaFtkjHSaeQu9TPRhjJhDYjo3x3Z58GZ7a",
    "9JeUxSgSA5c17Uh4rN-EcZUZPeekgu_Q1znXP1tvKQN5OUnHOEAdeFzHJwxveLczMPaNHT94mU20mGELeCN11AlTps46",
    "hP9SD473-mz7SDJbJsI3Yeu1hf9lGnA0mAyDVm7tFnBYB88-tzkwOv2VWpMQyi8PjDOfYfqenbByJZeN2GE_1rLdoREy",
    "C5YwPVPj5qxNZXXYT6QvZkY7q_F4aCY62DFHTxCsBUdMbO5JR548dTNEPySJfC_-Nbt5xfm_Yez9RwHNKcw2IQiC_1JP",
    "B4Wh9DBSGhp_bWBUq5dwx3VQT9S7Ugfs2homQ2_Uk1_9vMotVhoDdGAE2oHhUWbVBxbSybhJGHQtZpWZgh-1BZww6JGR",
    "qQfGimz4ini2a2exGjQFoj3HS4eB8BTLEx1uLrAwYbnvuPPigOAkBSaoryg-f7C0EEcZdgcYBvcVIzuKqjNmP6JGazwD",
    "FUv_t_1Vqx5dHypmGIRCOjz0kKFVtTOhSSc3rX9-w8bNzxuAxdjWxwU6z7Y9NtgQLa9tUwFosXLW0pwYSyGhbAbYZUbL",
    "H5iBWgS_YUBXucNWKDpyrJGWuD4gvTYTapboMMc2GjcifmvP1ZnJUtooeAKzfKFt2Lql7zdYGl4R4-mMCXsM1LZRYDiy",
    "SYtZhBOkhZ4cNxr0QviqsGeWg5UA5HFgHODa3-OtMJDP3jV07VM8j9YyQsZ5Zl00LIHfhoL8rf27v59Y3uwbN3kxPqVw",
    "OENvOFE32LxoP0z-yBJARWCQkMfiZIuQVTgE734SGWxfFdlxHwp1K3T0dBgnKVwUKEd8b4G3kK5WuCVm9QOe37MmMG2W",
    "Bjey7t1j0-pGCZeDIGk1VMkavT5bUPUFEeYtKP66ILReDixqL8qK-JC5z7tfED_RSMLCfhdaDVVm5fhkaWe5r-Euws7d",
    "6_hcFrL2O2KVMLG6bQyizqaPPNmsJD6zTlLwh7fIJ5JN3MpcvbmqiqKMdOrTxIiq6QZLydnCj90ZaefPGFyV48zuXmcr",
    "5kxnR1ZYaVNmRULWwklVJzkJ6NnWKckwIHZJaqvGPbOK8SK2YJDaarHuBVOV0_uM717IeoLpsGVUlExnakkRaR1wM4UG",
    "kjC0YBxmgtVT030G8HMjACgctwC_S2K5-WxIxEIuKL-7Z3p9NlLqsC8Tq87ZAYmqd0vW1LkSqtqK-Tb-LhRCDkpaFe4F",
    "JoxgaIw-uXuxI9hUT_WyGKAV5VvLg4JdfxpkL2g0eCV8H7x6rsZd6p9LVCKb-uR3j9HXyRPHTFC03bqzSv8M7DzITSe0",
    "KRcpA8bC7kIJe1u1WTlOjXP3ekctwjI1BGuzTRimNRQjgPD-xFqoW3bb2jbTF2O2nsl0fk8jn7gs7MkQdpQrQ2LTTGUA",
    "meli0EU9inP2ELUuAb6TTbzNym4Ukcd6MIhKLcml6imzHxGCM3CFiIV75dQV0hUvjgrtsMaV3cBOaLL2JrbihR77Y7Hs",
    "nozrPek3KxkpXLVORPuVHxRwV--bqG6L8ScGHokiozyzsopQdMORhSmde1qfBjqKc1fLBeuxUAEdfXlIR8r2zbT1Xe2O",
    "lB2PU1dLV6iYgIZGZ6BypbBeCF2pGj3mdWesGzec-fBFYseEoCC-0NL0inriwTOm24JJl0umA05sBtMPBKL1smmpQleU",
    "E9XVPYh89LPyNNy6KdLGQF7hqpOeduts0R3WTVp9m7pe8_nQt8RItLEDCZzxhQV2YKcDJdZZQaPurjm3RcjDoMnpnmE1",
    "S6zwrVCh6kwjjH2PZUYcG8kqGKezZGyDbSJ1XKhaLlQHKZU_uerOogNVJCZ6B0VjhzKsmK8UiyyFUpvqsjUKfqA4o-pP",
    "ubqQUxr4-DzUjjoH0t-nWaQurblaXLa5_oSaMjpHq59yICw-ZNNXNzIIgDv3mEWkPOq98M4uPzcQfAtLaL0N4mit1YEw",
    "trmccQ3LodCrsN4IlOc-RT8SymEQJnmD3WMtVCV5E6qMlTNERrrqqcIBzaNWVgg1QcAOx0-QK92wsNvlOdByRZ3WG2Zq",
    "EkqprzCZFQzUAqelU1OisC5cEaKLwQ8EU2_ioliFp9PGy084NmPMjZ4hxfDc6WS0nnTGXcGZ34cmbqovMmPEjRv7hYcN",
    "BGAb5p4BIuHd2HQ04ktyO1iTt0ZDU_OM2ycEDGiDqcdJZ9oF-KYcGj9aE_jC057asRPBzw20yesP6wqQM7Ku-k920pru",
    "taz2GXKuMKKAqNKjrKtl2MIKdRsDtYsnvT03Kq5UY9Jm7PSq5FOxihYbH3AmGTm2_Z-lXGirDosot9ixPQvI1AJDSLNp",
    "8UBJG1cqVFhHHt_VJB0QAML9arlG6Dki8rqslYOX2qPqkHxE6owuRJfp6X9l8KYxh0JqTE3C4JzssQZG-shKvWI2dFao",
    "TaNlibdD3ap5Id79KUweLTNXS124Au2CwUxGKQ0ywXVsZ9Tnvm6cAQGcorElx2pTtMboClnpaxL-zupmgsCVKj7t9IZx",
    "DDV6OqzVtcP0Gr0e2s0u0DfianwL2eewEFUrxdZ-HSt3ss4EmDrF4FOHjifOUgZ3ofPOKgKlL573-t_qZCJXtl0wr0N9",
    "UE-g95hfYVeweNqwVgnRS4JyE6qg9K87ZwZK6EDuNpqhlgowwoJz2W-2uyBbkfVHGZ9ydd6FyktGgsBB1grXvW7gK98c",
    "gjyyXl3c_4ZCJTiUeh67DB4o9Beexnc0uYG8wTgwBJ7C9VNygbEyatmu_1NjwuLhomPSHMpt_Gkr3Qisj1RtqhZY_6Vg",
    "ue079mzk81xUdkTnd95guBKTlYR2fnAREunJCVdnR5Obff9kNXBfExVClAbcPqpyV2xsvUPWBD-2UqVCLAWKSUH_2vv0",
    "U2ayJl3liMMcEESlc1h-Ev6dTBPJtcqasHTq263COwauGvGkRfamTP4YXzRYqKEc4hUM4PLcc0DpoG2tD3sNeph4tsOR",
    "rdH-w3nskAK1NHlREubCiMEK5za6YqvI-uaMjGizYeOo-3Gb7dw7kgvHIlA42LzCCdRJPCdZ7eMiigOexTzvt_QjVTy6",
    "EuwxpqF5n8BtYKtxZ8c9geRrdJtCuEnW6E2t3Xoqz9D5yR5Ioc6pscDColEisEpgpQ-NeNTMv9FaYJWrDhilIkKqPwfd",
    "c06CVT8KKBWbuyg9gw3pqpLJOCXD0MyfdLAmeFg5wIcNDPSw3tZ3haOeFRaNNWWq3QjsXG0OnoQPwzNfQWCskK_icSjo",
    "wpXPdoRqEMB_RvLxOxY0h21f2JW_4NgxTA80Bo4_gIEK7exmGm-jXbne2clpOJtLnmy8U9Z3Uh2utN5BpWSW-wlOK8V4",
    "ytFZwE1vEwrTcUQRgfp48QSw-sRi3AUFxp0BbHQW1Dt5rz_tCpPW1mqSQ3wzS-0sXIYUbaSOYNg_lvWsBU6PRtSuhZX9",
    "SS_-hN2ik-4Eq-Ufx7vVnJdO34F9qg3PVgsoW5QgQ7awLBIWuHV9lN7jcjF063geCpWiZ0nhYI0jDzlOEUfEgcMDuwN6",
    "liEl6jeWq8oGVu5BHRsVorQqFO2DLh29tTWD7zzhQDLOTiyse2YtiHNXHR65GOeg3SX6m6QljOLRYWN9ijtfJtXNjweM",
    "AXsLRyIyxr5njLEEFl9a68lTTH3UpsYcANn0HllAEquE66fTPKLGXBrKjT9yJeyBK54tnrD6R3Y5ohwWzzk9X3Mgedtu",
    "6muZMy7qGE-K0NlBqpHEAB93dpMcVLzAWGDF7gMhGtKmgykFMMlaCbwWx9ERqGKontDTpx83ULZU9f6mD5kNY9DUtBir",
    "FPX-gcMeFw4oHLg6snj0l7_82V-Nrq6xcoK-pHPe88Bzdahz45pVLoPQo49EWXaEIMWoq0FSCADz6LA-gdy44XkPsWFQ",
    "nNUuyrfUnH4bc-dF5EqVi2lWNMIfHRlZJ4ACeyBRjyl4NEkSgEYWlXjN2hSjSzyXHMEMgds9KpotEG4G0QTKxns4EPsY",
    "yUlUywk9Tj3qqhULK5YceciKdygXxrbjovETvcyQGZPjwlFPZVtTxgNCV_zGeJyqule5UlPHgFA87-TWcV9EwfJZKLpW",
    "MBbY-9EOoR6TPTUsts4dxUrg5ClwBRY1R1gROH4VBmlkH044SoIJV5zl0RCm18J0pZM_j6Afs9KJGrwLldxMufAeUQIN",
    "aHei3shN0WtBHvEikRyaIv4JTW88Dj6dYHlqXovna7dp_EaM4sCkHk0TaFhhlLnSlxrjGLBz0kmXDne1hJOTLonyAilj",
    "usVLjjqkcOQRXiwDV9kZqO12h_a95Tkn6xafTF05VOAUbuCq5l39cjFpsdTA8yw4JhaWBULHGyiLdpX59-lghSOj6IXb",
    "VFrBMhD-3o17xHFOFNTy_bunC-vNvDkLnKNq8rVsBGYT-6sOoDUxhUkhrxp2dBNCPiBCM8vT6GGim9KIlRpuudZ6ehzn",
    "b7e72yYI-h4NXF22I_0p3PtEM6HZ6zg32l11Qbb4ANM8Kqqy8nGvJlfpOZJvQ0dPuoLK9T6-wwBKM9k24jaKO96CSafw",
    "HU1GofwYYfNGBxMEzrBy5k2gEnPobaV_SG3g2GB8LaIyYZQj4_2Z9tXuBuvAZxyNUoCZh00wZXYQ87jWf4-bRvaRFZda",
    "XIJDNbEsnN4as66dG9SbFPM_oFPgf49n1xxf0gplSZIicKweheYJ6-SoByg38FE6dHqh7CGRhg1aS01HG3FLyIwvs0Dk",
    "Rykch0ptajps2wOtbDlgtoT7zclTwKS60K_UQoorddes7m4LxtwFrlqlcFjjR9LwxQE1a4dxNkyQ5lf1L1IDNVk7OM8N",
    "qDU57txN9_s1j4y7QJ_jDguc3xpYZrsWOMIbl46GpnAwMkciM7LcWsGtWG7N4Fa0YNz0iq1J4uzGPGvf_bTz73b17t7M",
    "t949GZMBjsxuCpHe_aIjlBjMShfEd7272TNdkfCiw8gyBVx2WJK5dcxctN_vi3A6qyd0kFwYv3ABbnbRo2EVUg_x_GTI",
    "pn_3C9xf9jY_PxBDqk1D1r17nW459nqRkTfU7Aueu9ITjJumDDuoR2KH8SgGo3uMesu_YGSDXLQuXsaB9BKMziUUCtlb",
    "dy_Kz4BnCmNKEfkibN_9gobvjKIlUAxkH4pEV9qVo6aC1TB3RZhZlwVrrAzhc_E-SlowDOo2uEs2FPocuXTvXswjuCYv",
    "MouSvRj6xIgBcNVFFAtrDD8cX5jixCH4yVImpo6xTi7uq86avM59H7qkQeHmLxR3bDKThfwGYxSnMd6L34gX1fIQ9OPJ",
    "OeOTFbALhTwhriNjmD3kJHaSkHFJPs-lOKCrG2LUDTHqVB2wE_2-ySgLf64IPO0a728oVFRYgYHWndmboh4qvBV7Ri7z",
    "w8LcxWMyi9Lwe3qWJn808LbcvTjDhIHF33pZ7-4XDRoY-P0WEiWrpzzGb-mokK5rn-4TEyAcgFWnsngBs3f3DJMEM5of",
    "47Fzn6McKbPDuGtGeRY5B7sjxyo9pU7gF5DPuxfhwGSM9GjeVF7EpvDcZfSvjJ0XGknzpPXAPGVdm3_lERI-X_ZuxmLK",
    "GdyH3SB5P4JVknqSu7hgKLtG-0oA2TA0McVVd88wEBndvcgySsePwX2njAo5qe-eyZj6bpDzBjuXehd2D-1lOAicnzoj",
    "MWR2Iuxcxfs4D0Nbf_pdnEc1M8-nQyvPzmScUboU7yT60NbDZXLOwDmYEc-waMBeJI00KaN6iner-s8STUSn3D1DdmAx",
    "ZcfavtN9XD_Dj2Fc2KZkPPbsvgXeCWfDi8rP3L0QMj9CuLNLQFm8LdZJoM6oLr9YWMkk9iU2L-HS9h6EHBn_s5X8xi7X",
    "BTmw-Qkd--75by9_t4NMtvz3u53fvVryAONffu_YhG9--45dVzL3ko-XbLriGf5ut7vumu5JbmG7z1V7Dplvdb27H_7Y",
    "78-LafgC7sPRXMUV-p7XirH3tvh4r2EkrzgW4lvGaSxW4NsYj_17jU_6bjvHjO_4fOM_vmm__-51jX2fe_5VsgM71uRL",
    "jgPYWHvPO57f8xr7BT1TvMP4BBmBD5HRl9_prXeScRn35sj5fjd0D37-sj6H93Ljw3jsGnEoc_waB8fHn4gBmc85-N0e",
    "zdNBroZGQf7gSxi3MSdf1t0u6T1tnr7G1_vcfN3U-lzFu513jM27xIJ8Hp8SWzG-uq03Pu_W5eC334if-XXxFV_kOon1",
    "-KKbv2tu1DvFLn0L19jnb7v3Pe_-pfRs14xexb0kF_rZq5QbyZExRYuzGeO9Kh7YV4wP9t5psrN-v1u8sMYY-4V-fl6M",
    "qK-I_fYrnPYHjN323qfGrksLgFyuYou9_P0Ox_k6ZKHlJw_gt_vwk0vkYMXvjUvXOGdP6tP7yDN77zP89kvc8awYd-3P",
    "GbHH8i6viKN3H7la7125d_3eNxiz7usYgHfpN3w-73pODMCv4KpTbvy77l0Suyy5gneTY9cx0Z4kry7Hhd99To5ejhT_",
    "fiNmWfLFik3Xxs9RY8TG4nsBI9_t3ncHGWy_3ylu3t2639eOlfcLMuTi33OOsfaAZpRsuMZx_AWZZPlZse3yk19xPnDt",
    "Z-Io3u8YhE_q2WcwQ9c0D1fw3SX3jIv4zCs2n-Tx1afPiXv3pPHe4mlfeB5esfNeMc5krekOe77j6j2N3--4d0X35eyd",
    "1dxyXU658Z2034udmDzG4ukV_y7nfLdZhVitz9z8nhNn80m3pnv4PuJvPq2V2S3-4bP8ytblz9z__pH77x-7__6p--_P",
    "_tE__if_9J_983_xL_75P_un_-Qf_6M_-5cPjfxH__Gy_-Q__U__k2X_8X808tC__M_-8__iv_yv_uv_5r_9b_-b__q_",
    "-i__i__8P_vv_vv_4X_8n_7n_-V__V__l__5f_of_4f__r_7_-J__hn8-h_h33_s_vwj9-ef6Hf-W_fVv3T__ZkG9U8w",
    "lH_2Z__8z_6Fj2tZlJUVKD5Dbu0TLFbcbrMCaIDDJ0kZZRG5Eg33xzc_Pr5NHEyClMFRYJkm6z3Z6SDutYbV2XFuMS8R",
    "S9V1jMOTc249g9cEyeY17zDDz1DMeUrUHDTia4Gr1sF53be0jJKWhOhlLqxlYYskHZg_Z5y9KWNCsSOhIG0-KwTJCeZy",
    "zIH_ojBeYbLB9vK-Ev0EvSiDX_OZqC4r9VkmRBC5DcPlkB2zGjxAVi8pUljCJ-JtBHSQ4ZcxbWXSzHNZNiJ0Nj_PlIaI",
    "tx5LMuWNBi974KVPvxXCtNGBXuccy8IjKYqIjixj2UUolpjeMDnqmAZgwQhnBWNCuAVC-uHYporIOjasyXHj-iR1ocUe",
    "8RglNTFarBiGwfQvf8JbGXTqxTjyj4hEWddh3RjeRZi6Xgs-cwei86xLpgVjTYysWL5igva7XqedTNt6hR0aNQ1P0QeX",
    "0RhTROpaqJqG1Hx0P2diQ7LR_WcwhYlHpg6YGBxYPDEpI-XknYT0MDZtOeqkaIurhtfE6rIOc21dGm9T6D7sWuQt8kCU",
    "QrhthqYcOxoEqdlkrJLJLQuzT6mClb83cDG-GPeBRpb3KPng0LZra3W_ysrczZLmT3UzuIZQzrsnw6R4CoI9mM0y5u9C",
    "87gdEKfABhHBz4iqGfj4x2HL0vdmiZxQDNF6uB8qpiFnHG9cPOZwPgz8Nfu84dSIC7F719LzHRFkEItWLFBUiGXvcvOa",
    "1tXeYYFjxhy6LFe1TMWIhzwUqrLh4rr8Qpga-a1oAx0OwJVb1MYdKD-OnvDbqssKqA2d3nK2U1FQud9x9aR4loY8YmlK",
    "DONZCIuwg7ESr6SvNia9OOrNZgEZGworiukZVlCV647quDalGvJOyLIcy3NGjwmxrKro3FL0PSUEWSZPn4FBYvGQsrbQ",
    "v03xBJ2pOh4w6cCSUz5Rjs8WfSF0fT3qhBWE4z6_ip0k0BVS-hduEm6uvHtbhVeFB0aNJR1hCUR_Zhig9V4_O_BSv_Ao",
    "G9G5kPwv9ninQoURXM6OAcpZMDttRJuSGqPdVal8nfBmpWsGjhIuHbC6U2vqE8QThhRwECVLrxldNvQG9Lp4U_gBSXmi",
    "jBXubDycpGTgbmOIVlxPfFUCCrutjFSUcRuT1409OKgQqokwihU-3kxKPt3ZEnLik2pnDabiVPQv8dvWM3VR9F1W0EXX",
    "mca3NGRRngHuWSwfTCJJFMbM6o665ymH4oaKsyimy1JHHl5V-Pz5SNEvLOPuMhjBqqKb5Dy5Up8LH2knpO2Ap2ZZcsyY",
    "Y9dgPJlVsxAgozDD4F3Aa4vY2mLSjjsaZupeAzlFVPrS2I5US-y1tmACQPAFjZyaKX2yx_iilT6P_l-7YGEgpL0oHVz4",
    "NQrTaZ60rbYHOBXEpIjc2bDhnVi5kX5uYC1uA599sTS64WFcSZqAfZZ5Wu6hIgZNM4PByPNXKCrZaAUeLRKN-rzok3E9",
    "J6th4BO4gc8krhHkgcoOG1C5bh6-rKCjJZMyUrG2ZpLZIJNraAfQOgeYC8weIrvBNldq_BQn42_4l88ae5RN0BZAAUeJ",
    "4DsiZ202Tdh8ZPIhF2IXj4eO4zHIrCNLU4FtyCLFDNM-28o8TtEFhgqrU0nopFuqUrlIQ0FSAGao0yJj-00ICXAB2TFH",
    "0LLcUdkRCcLMBUbIfSbKxRLzxCsUfvJZuIikwDI4Rr2KjDtcIwLhUycbDuJGjMKUkU75pHnguGXj6FkXDg78aTXZJLiB",
    "ltUGhwAMgqxTT_s57Lq-sst6waRrXCCFuMiCZzB_qqIJ65mZGY7d19UXErYecwpoXhilNLRWh-QHQvlFM2KjLLrbHPC_",
    "4RRjBKN0bQ32TM0h7NSiwkhtAw-OdF0ustyjxQqX7oujTUTv8Q3DKFJCarmXkcCF6GOVtogLyRml5I7Ge1C9b_LqndxF",
    "mBY1zeqJ3c2zukUO2pUXv2ZYna9H3gMVqpj6IreWS6e6mjiMloBnBpbwKvWE5CGCgkzTVpsVIzV5OLZNOCLHVkzyezIw",
    "CS7az332LfYJvgjHRNgx3ganmpi7S4gDVRcCjscqkbEjHnewnoHTvWqsQMIjGGZGYAkTXZA0YZ4Mm1VYYRer8x2Kd8yr",
    "08mm0HikyuDuJiEU6ccLEUuJID9h4T3rg3AEBR41I1QOCU90YtEgp8UXGrDUpjDodxwHIPbpVhFt1AJHX-eTXbHRs4hT",
    "uh2LecrjlgZ1ak6mOsLAcZ9rdSiV1ACd3tTk-LNZPotDliaz0EVaJqg4h6uld5Iv90gK2vNEZg8cBzDJmXpmJQu6JXSD",
    "O27GXLcEKnzzbnII1owWjggKW2W4DKpltFpK0tUbYScrmOsG0wmtswI2r04tXLNueAQIKcT2fA4KuC7Jee5CyFTnxrpM",
    "Y6WYiVlwzgmOHVlD0hPXi8ts8QQz0ljSXqRScRE7ceTZrNihpN1ZlmUUE5A3j78t2llKypS4EAYfOky2qCxx0muqwlLg",
    "8xasZZXLiW8hdgpN1OhdamGxjRKPoAIiVW0ZhNcqyMgAoqQ-V1m6hffpePPS8Jq42RP-XBaBGgVf7f0KE9G2nIiNBi4P",
    "U5Gkc_2pMxu00OCoknQ4p0lj-AijtiJc5kd_t14ckLUph8LY5MBlgWNZgKqMeV7jU2PBBnEoMddmk2YFDz2mYA1KOGYY",
    "KANFCZRYOFLsdDDqHVSz2WT89xwxDtZ_1GA2TWdkM1fISZiOe-tVTSqvn-s1OW6JxSmVQLVdsXNilJxmURfGNCDTkVhg",
    "mWrS952eWA6Z3jNYUhLP_i5xxhvsP3tT42PAGcG3FdvHb6H0XuxDly43Aod0IJuM7rSl7-jXGR6T7D0zUGsBGfVmTGx-",
    "l2xNupRWsy4ELjFKtYFZHbMsFMHwedL7PLQDkNE-NK7msKcEmk4ZsSPlLOlMjd7HVbvLrhM1b2Q1V7THYscXOOVTohtk",
    "j_EVNhvtqYpdpaRcgVK7UDEXD4wnqXVw2IqYQqe5bGzqKYbsNTDOilHkUmq5ppu92WPlDcwpUglTejrQ-9NEDLmEOpRD",
    "lzVgxESKzV2UwKlVfhozOIn-_bnOEUck7zNRpN4IXYmlY1UhvbslwQPj9SSdBq6W0g8DxwGeUo8VoktSaCZrPueENnDU",
    "R9jL8u8S6-PU5sEBMzfVPhd8pZBZ4rqhiA9DnPZqHABZ-oPHYloptVj6pu1ZrqUTE7dKSMIfbE8boEZcc6Tsov1N7snY",
    "-s_o4z5JzpO8F7a7bLAh3ctF-VUuWt7pUF4SC5ut-wYJSaIgZNUgVyzriAKXC8dP_Y4-mqsAly1qeOTNLdnnue8URQQS",
    "C5MJlXcQ2sJ42PCp9d728-8VOdLqmHsxFmX_pEc2OmTbshHnxjWIkLOjxIMSpkIV6uPrIPAtHhzOlDiQpmykUQ9hd5SL",
    "pJIaGAuKuHcyTJ1MUx6axjlMzWjV5mQByFXqWPzGewrOA4Ken1YFWi8WDwC3KCsU7ZCkUufNHVf6Sg8AqU25Zwk6bmG9",
    "2EgfsYXV0EI6gWgD42SkVwkrl3lg2rDrW6QAS8jaYZUDkFQh_MjRViTczEza27uPeJiCxdBEIOHCdCKQCWFgKM6kKIQo",
    "JmbogJM3HTckC-NWdjPgnmZxiG84ACuX9GYEuYceOjMJOyIlx4ONsE0ePQZwoWRGRhx1sePS62VWlsPglaubKKZ8BZG3",
    "hB2021pF9btaC6b-uEzqaEu7O3TAvVQlv07tkAlr1vXYkrnrWKrWY2Xr9ZhT4PSGrxIpZhkVgV3Y8ZEKX0q7Rlx6dcY3",
    "jBodn3AE9sFqGlQMCk45SysdGIctZZKan8e2B3AHvqJNVcYaqo-7BMZVRS6bGHqFs1r40BB0Vr5u2gDSFvYxBvluC5aa",
    "ryWBzE4TZeSLMFY2YbspxCSDgdaHxylNkoRKapB7Rz3sjLCAFqMMhq0xiwFgRDOiSLuFCt9He1YazxFecJNafNk5yKA5",
    "bBJVctEC9oe4B0_DkrEVmOo5BieWQduG8ADcwvtE0WZvr5JUT6rSL8paY7MgpJhHP40cR5lKtpVCUP-y0gCPcFEiH6Me",
    "lKDchlQmSQxdiAgTFXVU386FE3tW4Ev9_HI_ohp73icMhl3ILM7mvOMsNxopomNIbggBD3y6gWwmgmiNmF3Xi6bM3ghE",
    "fS2U7Ahsi4azLsh8yrpyHwTrkeSObRbMGODB5s9sD5KanHTMDVNWn40xeJxOxwOtp_xps0oEF1LvrkZvpQLfrGDWIS6v",
    "Bga56HKtexe1liuoXKl4tNE0GnQ68DHYNY72Oh2s1_GJk4I3NPpdVrdzjih-Omr5K5nfBhE0BnZjxiAPT1EuN8Pt3qNn",
    "zxJzQxzZdCt-Blul3xZZMKmusMuX-7hYm40LiqwXdn0ZZhi4FXucyQHe0eijdXq6lhTWsAVDJKvySzyOVIxuBhUeRvVU",
    "C2RuwCahlcfZcHjWpKwoKhz5QyPzMc_AFweF4kawUiMyAUEoQ1XDq2-Eg1w6TtOkp81KbFzgwfd-XwTGRgMJMXi8wzXK",
    "3FUsnHpXAsARLvMB9rWOKHMsis2ujj3qPLBgArUE7qNeOJPjruLETapJOIlJYtXgcQzY-vZ5NYp4avMzT4sWgr7rYI3j",
    "7l7fYnDQaUgdJmIiYwbPuwPBqEevuoMerq-v32PJjUprQn82CRvH4uqmT1KkLNuK__2xPo6xXn8m-fcX_92r-JYNs__d",
    "a-6LP1175U9X3_vT1U_n3zsxf-SrxdMfG2Bv7sx7htjDF_-fd478vy-f-b_evXT_6vX7N7bfv7Zv8eyxhbPvsVf9V28v",
    "nj3PD556ffHLd-de2z5_5LW5A8fmPjh1__ofF3e8vXDrzfl9d-aOnL9__eT9OxfuX3vjwa5Tc3uvL-zft3D89vzrf1w8",
    "9ur850fww8U3bs1_cnPxzuH7V7fPnzkx__a5-zfenzv70YPTry6e27HwyY65k2_Pvfn-_Zsfzr9zfv61s3PX35q_sm_x",
    "0rXF7bvnDnw8t_urubPHF8-eWjx7fe7V6_PfXJg7cnHu6s75P56Zf_s2xjP36nv3r3-Fn8wdPzl35vOFt48uXjkw_9EJ",
    "_L2A13ljD29-59j8jnMYs4cTFpC9u2fgM2Q03SjIYT0kbJsZkr5AcHHuMGBRCRKEfZUazIm2FvO2kHDn1GBL94Xwqt-9",
    "zpyuqs8NLaRO7WIJMO-GwVhDDzr4aRJl3njLZ7yTVSIJCbwiqE80KQJDdWjMqjbdzuUhnLHERRaJC3BlVhkt6F2jL_id",
    "1TrfPRMm7bvHaF94lGyYe3hVrpwLkZYst9dDYcbd_aLJKn22yHKYLAORWTGtPUI4OUrqsZS96l39OZSuA1AVLmKWhFD_",
    "TFWEhavZzgoHyvJdazHzGMzdY42e1ZUIGOnmMHFIMvyEs6xZ5cbRUP1bOJS34GqC8YWpq3sR8wJ-QC4EsVbSSw_J4tRh",
    "P8POixh-_KIPIMPLTyUtoYfxFc4sowjkRFZ2iMQ7pkwGIbnCiHHMEpJu6D7l0YKFh0n6mc8K31R7p1pi33Ett9l0fKca",
    "Y1tT8Kv6-4R-e1m_Oq_L9vpO5NakfMefjh92v-L1X-nvz9Wx-5q_j3Ulv6aLD_n7bNcw7KGfaxin_MePRwmZKrJG4VqA",
    "c0jn_3Rip_qXn9I1Z_X1cX39pT5-Xs3Rr-qHx_2QvvZty-3pe_wjzvuu4Vf8rzCSd_WTr_U4G9I7_lnWpPwr9VPf7obK",
    "Lz7UW7yqJ9qMfe07lL-rBuf7fZ_yz_X_49ZnXXewSbji-53v1mff00PP-Ke859u920yer_Rrt4Xb75vEa-HcPGOidrg2",
    "5_zVUTfbfMGDasT-jp-E3f5Z7_nG7cc1G2W39aN-onbqYhvPG_6hZ_2M2chv-0XHtwd8l_oP_bPe8FNkN7SW8Hf0Q5vt",
    "rzVXJg9f-YW21zFZve1ndbsm4SsN75RGax_f6we2hz93feVNnk1WbXX2a7RnfBv78_4tjjhRcfN81r0Xf3tafx_xL3jC",
    "P2u7xn_Nd7W3QX7iv7WLd-iVbQcd1w9LaTnuh_e5xmxfn3YD5phf1Stc8eP53IvWOf9QG-o5La4e5Ma83fF3sMEX28eo",
    "2MVn15eNrPc4lmBLOBNayWIJYFFnNmOzmOx6bI4Sa2q5RhvIejdMhv63xihJFeb60jyyajXvvMnu7EFABdkiokbeb9dp",
    "TUIhw7om0udFaqfUHFXeZT1burBDZuj4NhIhoV3o51kLaSU6AjpmK7toNr7qlL-1-GhYefPJtq-zqAVlEtt3TLRPhAYq",
    "cV0mYCb2STQfPPybdaN5WS1fopAKBh0skq2xyFH-XSgO4l42DL6NBaWRmKiCgJ9gUKGeM6Nh-V3xaJq3nZTMu2trP_aY",
    "e_G8OUPOmQp833i2sLbIjjOEc8XEbWLYGutOlXQ3lyu4kc2sQ4cA64aKWPdTv5Zjcoyfay6v0VVOhSVx6WvNs0vCFtaB",
    "j37h82VW8YUSE6b0P1ymLOpkriR2UhFs3YXFceaSihSqK2-WtJt4ytraZCXAKedCrSeTYkymt0uJ4S7rs47z6eRe0f_t",
    "cdFGZeGXiXH2tOhbOadPmdgb4ZzBUMmYYVXXy_05vFK8maHbPbnvIE7gCH_9WLkDXIdJpnA6WoCkiJerUQvpq8sMVM2z",
    "rNQCh2LA-V2a9OMlWmXE9x7XyGDnEdve3TbhXM0uXEZWeLQGPrHb8Hl3o7MjmEY18i4hGHVL6AeJwozp1YcTY8UJ6jQ2",
    "Bq1BN1OT2GLMstHLV0yIpUshbKFGXPdgcnTyfZ_UDGlOPQatJkLLrmOBcfwYrDfoW22ej-5yTpkt6Vku1MgUo6Tt8omQ",
    "g_UGpPI1jEz30ImTidRo9Lu2rBkdtqbKuVgjqdb2eeZQZq4ePDGGBBY5kFvEa6lpB8xJGrWykkld5NTWqsyxj0exX_1G",
    "KWvdPplReJc4FfeDVRG79VA3WwMMdL0fL0UimVRVqkZQuopRa7XfeWQUN1SJgx80jK1TYlAwbltXLvhXpZ4cGXlcXmrQ",
    "K_OE9DgS8_-YjlF9Us_Fcnqs2227PahIhN5jsswIWFiJMaNn2cBHHdHq8SCzNfdcSXHkqgLxnUMSGWOJ2wvGCBB3aiU6",
    "YNmI50WZCBxGRzWdalvMqlNxu5JIvwQ_-bgWuZaUwddIHRZt2UhQQj48HiMILIKmd6s73l2x0lm4SKSfmj_PWRB3Nqp6",
    "vs-yJmZMlagnVgJ-DOtB2549SrgQZUDDVIEdVnJuCwoW4wY_VjhE8QzH2kD2y07gYEUOlfgiJZGARwYmWH2sxpaFj7KR",
    "0YFZN76eYp4ClLYe8bIBbeFwqsvLoLZYRSlHPMHUPp48RDXHnR65NHM-ENKtaxghr6mbw_27reTmMDhEs596HFVesB6N",
    "TGP9tuAlyq1yfBaf6GQ4FHHI9iYc_wcDu8b4lagwznBDrgs4xaPf8dEJD-hrDMrQHEnEmUzhIkE_q5tyzv1rhomTcbFz",
    "pA0LSoubUfs8hXS6RDbXUnT3q0pssQc8Qeekad-yh00yHiu8K-mT6t9o2gwfXl1-tlswHs2TU8gs5VCsXJRvBMnmD5h5",
    "ztQLAAqMNK6x9kwJOC58niEdTJUgwkxsyWQ2ZvAt1-wmbWFm2dy7GVgjgpWhNY_AM54uLYXfdDwOk3FQSzaOlNDnxIKP",
    "-O36zCdGBQZQq4eN1vhUmDvRAjHL6dEIwSYfhV9pLA-qhzVYDu6yrHwI7R4DcPaMihXjo3wRnQI9ZNl7BySzOxv_Lvl4",
    "_qLMhnvocoOUk87dtaAvbRq_uyfHS7vk4QTG1KqJIAkmPRy3IWSTgV9K8G9h0WDuN892lA56mfH0CpXNGrAew82jjvz3",
    "5RGvsVz9OW0Vq6h-URxCsekDgtj1alNuzwjPkbmQ5DNx2FHV7Uq_F2LDIKgGnQFna5xhmAyGEjeXViShjIZzrYfF1lhc",
    "bgI8itbbxUIVlwxcDHayTGUa5ICyph5xsq8YaGjFxnDkUt6FRW-pXB3rHnSEJbYKkYKqBTDZYctcUnnGF782za8T2-HX",
    "vOUhdiMqGmF-OIsioXloKJMMKGlOp0oHpMT8FwrbKkniMzxx8Xipw0owfWF5yr76xlj5KOckcNkFUTGKarrEEj-kgIJQ",
    "MM48pe6MfZ_SIZLJcX1rdVSlyO1dwrotjc9MTol2DhwaBhP9dH8bbDdMzrRnGgkZxQlMsCyzxIxbzYzh2ooJB6SYDQ2N",
    "pk7uKqGA-bW2ZrCJJxg1dgw9kC-nOdOBg6DR68i67tTtl_qgrKzoPFc5XbyOHXEwVSaEZSeK61fIXgg5TRrbRw4yD0Vu",
    "7ao5-etKCWsSdCHdOVImRx0iRCF_1oMKlPio16J20hVCFaXOQzOYk_w3pbSpx5d7eVleooILawRBrVDmYYpJcdLShLYj",
    "iHkSsacIy22ejagclQXh761Tk04_9wieVgKWybqZcaBz1_-P2lv0x3yuK0l5kbZe05EMiHxZliI1K-4O7S75Y-Ay7nqQ",
    "UCA2GZHBErJudy5xro945omsWcw6wNWY854w_R0lDWhvzObM5naC-qAE0xQlLHQ19U6Uh7Nh2kyzsLeGZL4JW9oI91Li",
    "z4ew_sI6afNEery0ruvsISZLtVv6iLQFDGQg-6qjgnLHIkmYpSuICAw0xl1GDWegPnqkIXMooeNVSylrrjClEBslxF6g",
    "YTvto42lL54mXnI2medA9i77AcwOankZTEWJTVT_PmvC8DSrmC1CwGS8QQWsEaPS5ULIG0TD8FrRunLXlhne9tMG5szy",
    "QQl3faQsWmH3YWfn0NOMtYI292zL5-1yPo0cG5xJwRLrcBWJqEmt09Cm0r53TH6YGFKbuVPXsWPUmPANLE9AAmaXlDY0",
    "U2wQWsGHVro-aZJEB-4Y6apbJdEcZsMx81zmwyFrnkOuNCyDYXFVGDCYnqtIw8HBa4QLsQGW7YCOLF9oYMfIUWYvA0Pa",
    "ExdSFjAE1ilVx4GxWsCCF7opDJrxLPnzDeNk8sP5MxQy0SwlMmJqHbvSqzVbUIqE6QgRwjtOzFgMx4n4OsooxIjF_Jmn",
    "N_Q_n_GEOiYH8fR0CfwmswHTsdAgG8uYzPrSCvIQ4tpUeedl40NIgXVigkSMbimKaOvDK1ZMuK4r8g2G7Lbcn_TZ3U_4",
    "DA9MKUoMchAKok8-nRJbCcuc8TvK1MYyFoTzxDXp3FjGCoxJUDGFWC28MQLXYkFglVn1SWzFJbC4xLMLjE3Sn1WrVpEU",
    "LQumWWVVepAOM0B7XGQrTtoNYBUVeINRAhKbWWdrPJAOmfB9V9c8FXv71ApF1ALYF6ME1hNWflDecE3NvaU1E5egjqDE",
    "bAWOn5KWkTE9Mn5iXUHpkSqzSiVBdJ-BljzDzkMPae4ZFfH2FQTV8d8RfSwbiHkdNpgwGryoH7tOd9aymatKi8y4_GBL",
    "keLJwcSsHZdrL4efbfZFSiuZzjL7-XnH1hl2DDHA4o8nSqtgK5bS_LxyX_rKP0XGYvtETs91mnj-YliRSV8ogd-ai5my",
    "m7CAxjhQ1TGsEzlUX8gxR7LcPHbY7QDevFH6EKzdYRwJ1qbz6GmNdMVFaT6sPJ_QW_8zsTV2FieN49hNB-YpMdTjcnIY",
    "n2aywRHIN9UayYqE3Rn3sHv6ts90LNrBXLqfy8tyqvUVPzRwKAdJmFQVmzT05LZhtRxlk4ddUATd9v3rEvY64voSY1V5",
    "Nlpk0XMDBWEt8GUGTycx5oKMPSMl8s4A40Ij2DILihGxea4BIWN7S2l5ayeWT_djhyXBFpAF74EiDxeOc1eeZt42_9cq",
    "KfpdMjIRgTttZbhbDKVWotDFg21-yliJInvMEBFafcyKGouXVZVqSKq6zLgYnr--Im2sYU2cCd3sBNYXzAz60Vknk2YP",
    "bBKIn2_u7KGEpoiTzjXqG8oGDpnrhsL9-mw8G_wbwuJCb5YUSVn1GZXnat_XjXpsDlQHgYg6YEMfAZ-Jhf4jibfV4Yr1",
    "bb0BoPD6vqqVtkgYDTYJfuKwxWqj5PdH4XEkghtaSQdNFjutSktBdmePPiIrGwzHtTLwbExWa8Fzv4TKUo840knH4c31",
    "JTZEx_t4GYWYjn28XQka88Hi1CyduCwADlhBZhqOdI4lWRls4LUwyARc1XKxY1yilnbkfjGQOO0Dgg7It6i9yh1PpHDZ",
    "K8_8GdM5_Zz-vGcMzVz3FkNUmraY9dUmQVlUvdJnaqSp-6YPBK8T9pvPsLZfZYV2UYLUgsdN7xJhbKDC1atWCTqth7sW",
    "Zh4TI4Zi1zGbCjkL3KPLqgZBb56kzdVymGH2KnRM6rUpdt0yE8ZHccLU-VFRv-0ayXHTB16zEe5uuz8o4c1lje0YExKj",
    "qnuRNZeGOLQcvgivHZUl8qm10gvCnrFD8zah2lcJhEUlnFmzASt2NHy8oZjdIRhkBs7UyVQiU0sPfCY27BxtzILaVnTw",
    "tspssulaIQe0qdg1hTJALk7rwkN_Jk-MdTjrOhSkIZFt70tQw44BqXnOKBejAGBp3VjjRLWws7iUWIkHwscqMUSDgvtA",
    "zcfVptQKpvjbeu6h6y7OShdD9R_Sog0Xh1PjnsLu4mTSGF8NbEZpZ3cbsuFT0iJyB1ijZ9vnDcPNrgpWx23-mXisjMmM",
    "lwEOniR0luRAuozEeMkqwGYzZhf2ylgBNGcPqiWfbpU2-jLPG7u8afyabOjo-s0qwidbZdlIAC8htGhT3ZD4NELIke5K",
    "gqy7gWKMwkgGDubFNVrvdfvKYcEJS7A5OjF_y9TpFyUFQeBwq_hiqjzVyvr0SRc0Y-s7xlEEXRuz1n-18XEynbscqYju",
    "CHP0bO84a-mDNUJX9WgI-ijwQMNOmX0wflsyH_6HT__Dm__h1H_44D-c_n6HWN4u_j9fJYFSTreS_n5sHTalaQTPKeip",
    "OUSTWM0grjp79Nt-PXHXme2VODY0IWmGyKCi1Kyx9b7gz0pUF6s45f5S9h0wi_lGx1Km6Jae4SG8SaauK3qarzVLMvEd",
    "2FiyugNflWXXcQneKhSB5AcKy8dTQ3v7pezZITYtyxgraw7bgOeRMe_bW1osKGEvrxTvg5_WyVNI1zs09JfBraz3Bsbs",
    "8WiF56Fj2Y8DLRWu8i9-MfSkCrGfF8KvMPy7F9l0oSSXYL8XDBO2zosWi0yUdnewMZdtVvOUUvE2ma4wBjbWSBjHmqdV",
    "iNUkVS6L-IquiInogrFLfbfT_YxffU0Opm9vfndILErX9dO94kQi79QF_HsDv7_87W3xMZW8VGJFuq5_yWN1RzxTN0o2",
    "qYtDPipjctJTvvHcSd_tLH9LDqyr4la6KtamK-LA0kh53bdHHXfVdVxzyTElOYYo47b67hB-Qz6sXfaWJY_UNcc4xa84",
    "vu2ag5v62zi9jHvqWsmQtbvkgDrvZoN8WTeN8YtXaIT8lBszxuJZnvi0XZg5Mkzdce97CW9-Xp-96r9y_E7Gl8XPkZVq",
    "-FyO_rZm3cZsjGJiENOT92oubuh7fRY_28WfiInKVuSGuL-MQ-pS-R6X3ar51dor_qujft3cdVcrd77m31qcW_ot2byM",
    "nwrPOyaOquuOcYxcWDe__bB8xnWt6EU33tucU8doxfW45Vbfs5JdNf4xriXmlOumOSjn77aee1n8YR-KP4tzctw_l3xm",
    "HItbKeMku-MlByMkS9gh3M3W8tB3exx72E58cqfucUkMa-fFLLa7vN_5bz8qZ0Nj0Zt4iTiPNyev2atao_O8l1vl7Xpb",
    "f53J2XV97Vi9sOY3TWqN3UzzftW--u51Jxs3JUcXJbvkINP4xFb2WslaxrW9xbcp5f6mxm2y-wbGtBt3_ZosWvdO3zv3",
    "_f57J3hSOFYw-9c4xK6RFcrYpYz3Syxcu-99JWatA9_vI9MWrjM-LM8y5j97BT89Ib6qHfaz73feu-g-cc3xcZ0hc5kY",
    "pF7RiXWaX-HvnRgV2brOiT-Mn7gk7ikya4nNCr_9Bs8_gK8cSxjujPfgXfCcb8iqJY4ycZndu44RnOan8IlT-hl5rexd",
    "yRl2tpyNA258F9x1O-9dxn94B41jd8mpJv4zXf-l52Pz76a3cfMmdjFjLdtlvGa8E5nU9G6coXN6ny_E-XWBY7E5JSMa",
    "fkaGMDcHeN-d4t7ag8_u1miMoYvXXdZM7sYMXeAbaR7EAoff622MSUyMbafIbVauAq-7KC6x3WQyI-uY5p5P3G98ZmRH",
    "c9fxaV_ZTLiVxkjd0zQax2zm5t5x0p0s1_gzSgZZ4zzLmbvLWa2l5O_e5-59d9oqilHtHMa-G-9_8t43nGFKIkbzitbt",
    "G_zcJMzm3CT5KzGdXeK629zjqnOOKe8bSkzx2GBzOE1WpOXWakQZwtVD0MLYdNJ0P7VzWcA33-XasHCpc7prwyxYWTFG",
    "499IvmC6GX5KN4s7M0meCZ3icmyCxTAk2yUgKxauqB2FRWuirCpnWYRLNU6OWxpcniRjZi7d7ZL_HrUW9xRkVmS_pSbZ",
    "w2z0mpKmqza1agjwiY2EgJ6DA_gYEIe1qy66a-Q8rh2O87vXuYimYE0eGiIe4a7zIuOe65e8vJ-nyx38os23UDqkMEzP",
    "KKmW5YQoJcNiNZn8uO-KYSRrmGcvxn698VcviWPrpdJK6sWWvJskmfYw0zMxOcyWtGApYbrodo2MPOXLJq1fjEElGW5a",
    "w6TyRCMrkYzWfzmwzDtcVJr1a2tGqqGhMyzzt3FIq7wkKomjbivrOZIjzyDDsEPamyj6XUIbLfFDXM7gWVVHyaz3vEyY",
    "vna4zer31tYKDOJFu-Lx4XKXLFMp2fsdqUwwOe5bNk31Worw1ZM8yuOS7crwa5IzrpTPM7oIVhIXBIwULuNXxlqLkYdK",
    "T2eIFIl8xZs6RRkTGUPDjqcu8Ty9hBNEPx-K3DAGPqFgr6qSWfDs25dozixO6r3-Ju9oYUP43-ua08pH9Cw07Jy5ZyBc",
    "7Iyc5csLOHX04IWK6ZjHVo-tTZYjxBChQqiG1da7Fg-eHEKLFFmxksdELUMVQks6M3I0MeAVY9Mm4stXyAyXp5U-HrMj",
    "meIKtaF3mFiQWZO6LfT5Vuuu5H7KwIdtsmFwwcIRcnJ9RxCV73pYTlEvY5UBO8u7Tfb4cA953irsrLEhAMiApobQLHGA",
    "hUtBKuXtUGGaqM4gsDhQVMaZAmu8ZLHHTPAAplyeUZuIgHmjySHAdah3cB-1yeYtfIWMFEjgydxYztExNKIiSRao8s4c",
    "O8a5uBor8ZiUN1-65BtMB-otCEHr9Aajw2QfydfdwlqbVkkHZx-KJWVtbEY4QYeSKDBlotiAoREFcnoewpIwrgG1HZQ4",
    "JwcJo3haLwmXwBeEwK1xFFvxpiApRd5YWxufHMIbXYrDk7Q4SXWeKjPrk-Nlgs-3T6R-SMRGZXXLKg4UHRwPqobLHbh8",
    "QRxYk2oFA8fsQHuWtcDTeWL97-J1Q71TdrAkTFmxb1U_WlRPgbaybjZYPoRgc35d0t2R7KxeterPGUNxnBeTQ8iDyjy5",
    "ymtrK8ZKIqFyz2ed5zo-QxX4hn3MTThWIgagc8PvWLlhJbFgkTNxPaVh_gMwRbFheIx7WLrk1zx2teUMpNmF8ikz3kPF",
    "tXoY_Q-sVY7usGICm9SEvSQEYY9DMr-xtXvHAUgZMSLSuWPqs0SF16aGOH0FX137Jn7A4Rt-VMZbJrrbJgJ3dvo2eIw0",
    "ulyK4rltxw8RDfMCgQPQWTa_yFzIerL1U78skegqGjZnjkagPhhWHwzrQamCAp_8nzWCQYvHdQlJY4QtbPy-n7iD1eJh",
    "Cu6qY1HfUIuGP8GXf1BrDWLJ1vgDICAaiZFoImLiYa1GJKVARA9RLRHVmnhvSiC-rzmTAJXI9bGSEy8dbKgo817gOR9d",
    "4dxAsVNV5BNq6NqS6e2JdQwFQrdmdg7RbaEYQUdznzvjfsN3PEG4WC65K7VpsUaGxh2jTSjKHdk-vpkHY6ElKjJgoxcL",
    "The-W6gxZLgpsZ5wpOYTG0eZPYsN8Cy-zrCMe_oEPQwiiDQZ_TJ2h7JuowYQarreQopi23KrDtfQFab81bUCQ_V4nSLT",
    "QzV0Sxmw5Nh36SRjjlC5KqH3PX8E2VGzdM2DMZByqjdses73SRL5TZYTJDdMZwXGLiI2EdewSySluNQTqKliWWK5pqQ6",
    "XE6B05TAVnaoca8JjEJofEvhG23gZr4gWmxhsWGWhnFhUjs6Y2R41I242DSFa9mIb0Iz6WDBm-3c7Camdwjbcok53zaT",
    "9DEeoaBmcY7BQwZRx-CHRlZoOVChuQx0lQVFONAiPDE0ysKgBCJ5jlQedSU8tHBcHOL1KU3WwneNwx2eskZf3E0-G6_U",
    "mFGCJunAGFEM7urpdtKB7wvGNCn9gVC4yqbT75RfB9_Dx1pW6mBgMw8JK3znVuw337wHC6vtb0ZZ0eLWsRL30KhKSQKk",
    "JJl-7HuKcUsLpKisVG0IMxamgAq0WCMKPfsYZN2o_1rxEL0dOHpc5h8ynfjK94rjwA9dHV-NDddAq8zuOko1DK9l1iQ5",
    "NnCUb3AN6WrevsOoOmWOdwiWlMC4YouRkYo9WVKmDs-eSatdeGJGkDVr1YWn1gIm0GMcXy-wzWNib6G2bA7OZ02fuGmU",
    "eU30m_XD08nXxuAtLFEl8XymXxqRPKSYqsC3w8PyEWp0d4GzXvldO9nmiTzqcW82NvIM3-iNolESTaelSztDI8aDQH2C",
    "QGhbd2bNxOOPb348-N_ICuDIWgXp0bbpNAaGuhNXID7mIGLcv9HQXh8m9APvBGGgYyXbQCDiCTMl1g2NJ-oo1__HQ6x0",
    "ioiVmlgy6U3jp1g5dH18qQvGuXFJRMAV5xWeDTRxZBn24LBe59lgaelpHxEoyhxRMPTGA98N1duphs9Uft7MRQ_21vHl",
    "z-DVvok3PvbUUOkyW-Xarpqil6CwTbB4i3JnKUiJaQEMqjbEmFeAzoVtSPFy0EwS1K0eD-vz8NRfPbPZesCtG1rbNKCd",
    "tfJEGTJYKQ9QBmXZ95fPohjWlRE2KWHhWEtkLS3ZYr4ayzmvsaEWn5F5a4BIwk7cRJWomY4R-8kcHiIrBTd0GXrsRmEt",
    "cARtGNqTHk0oGh72R4yo5ajCXMKv9LtnKrV8RTCsK5Xus9PVJEo51ZLyRva9iC7iav2RGGUC89H0Qg5C1LIsuAjdmNpN",
    "1FarVaIp6oNyjX3BGXc4HPveKIlQyxZyMC6cpctNYOnrhDWB2dCK5zlHkEAYWTgEjzQ2YpEHsObE0AUUuaHBuXJyvDxZ",
    "Y_PP5VaXGubRDUP_YlghWsgHGFWebiwoIyO-RZeoXEurzUqZdHz5ntpkkCIg2Qy4SqUj9I-vw9EjbOu5Vphc75IYnaXE",
    "jmQPg3D1cGy_S4Y7w9J7kmczprF7hQNQ0zZfOknDxqOeLMIRhMIY4v_dblIy86fsqeo7ONdV86qRiVBIkjFr9QSagHYM",
    "89O6Fm_2NSFwCErofLF56Bp5EJ0YelxFKlPCpZQM6zsLX3zEnHdYeos4ESlYIvKxHspsmTqEhP51iY1LOiXvfhw5HCQd",
    "FftXslNW_QnGJm4L3PcZ5ZBlo3g64QoWjEZ64TgYIbTDckbPOqhyuLLo1JfXvUiby3pnU687XkzhGaPAIY0EWrN9Qpq7",
    "wqAh5pxo3TaKoUJ9t8Ud5eoye6Xdpy3NbUBEdiATjbyDKtLT6MQCacSbnigVNteGsiJo5RCCWPREZyTHDZLqjZAyLhem",
    "ZVAzTMscMdwocSdBnCVGLEXfajIphw0rWXabCMJgWzvtFGuy6bWwW8oy97IWfltvfVlr6EjENW1EKZKmkYBPlVMJlDxE",
    "cY_4JhzUqRiO81E0naKgDT2qQ_y37dipQYuq6cQZFumRmIsWDDW9Yng2vzKbCx1cPHAcDGkYqpgYlvKvNEddGB6MYWsc",
    "d22NfaVzQQUYqAd6YZLMniC19c6Jx3r5PplYTQVcBcKccBhcbilDnikq5sJpbJeJAZE8kKLhO8rKlJAgqsbazYNY_Qkf",
    "Ecet70L--5r6HFiRXRYGhtYQ0MjYuYJxorcM8pAOnhjmJJYNy1_cEkIcVk4NDc5Vw5oKPtbRIDroPtfIVzI4R9fR5_j-",
    "40uAjkTQkkneAQhdKUexpoMTY0IUgZNyQAPSmIvW1UCiZvdxb2X0BChZ8NAMxiWDQoe7wcZcyTgFxjdN4JQIqpmp43xZ",
    "lxZs8PH9nmpMXYFqyV3LKgNTFdDc9m6KpSdNO1sZbIdSaFpFUQjB71nAatnIQ-Z2Lxvh_LqTrGmg-mq3XKpX7QsZfK5G",
    "R3s-C0rb20IRmrNZ8355SOQlEFI-jSUmcvXGdbmZwHMFipuxMD9ILIZiCRxWZASN4ZnlafO4Ubz7vKISpwlE0Jh1HArL",
    "eb-T6q1gFRxDBo01HhpKHgLP_IYzmJ0Ok3qe9NuqkLejLnEMqdjSZBV1OnVYAKv4A3Fz7M-dxx59KgPS3tW3xKYSIxGg",
    "U6904i3i4hkzkiHvqfqbTJf-EJxldVWm0FoMC_d2qz4ahYOS1Z-Fk3ZAEn3Xtz7w5PIYpszMJ7N9XLjBEBFODLnBtUtu",
    "fNcrQuzuUkHW_cO8AK6fgLcOa591nuEOeI4nEWFkVoHp-7pi-sgTxbwJ_AITWnU49p6lnZD-JLOTV_GBMCh5szm_bgwl",
    "z2jSc8UF4j8Xb55MIYq6EwOPflQYS9Qbw82rkZUdd-zwcahFD-jGtRuHXrP17HC7pcS6z5ItdFrV8fWBTY2D7Tv4qWPm",
    "cijiLguR8PK-3t917-hZ8Y0eJTLwdBhVG9PWs8JBRzlNY8T7YoEVq9A3FcxP--c3Y5s8R8ISNCbJgVOfaWsOCQH4GXeO",
    "l204CLcPWiQwFaJUXdsjcW-6qIwyjXYIZk3DtDpDy8VWetlqTMETUKpEa5qLSuO0ZD9jVtnVgAamwUzuxJ5q6R13e_p8",
    "voOwSGJjT_rujEJpoyh60ljGYq_tW0lX-9LFMl1A0DKp3u413LEoDC31ja9wQqp_tqREUyoVFZSY3ZZpWis-9IqJq5n6",
    "CFDJRUOhdW4Czi5OKv1XNrMoC-NCF_3RCjk4qMVeLYKcdDxXdS-a6jjLKTHqaZEXk0axZPGRB6jsS5lpqvc6bEruJsoj",
    "qKkkWmZQKQ1m6WFFvM16o4ImLe9QSlyI7GloQffTsoySh3DBbUlS2ieGoRPfiZybYRjqGTLMrHS9D3K3cZyFJQJNSxWV",
    "sXjLZ-nISTrEYW41lUULzzUuLtvsPMz-pgGDx6peaPIMZtGGa3zNtRg6eOT-6bh5MFvFXLQhPn7IGST2UFfCwaihE64p",
    "f8I-9JCru7LyrcDXkrlAmMhc4e0YHx-etsVro5ItszMYcjms9I1Y-uw70_URARY3uZ4hZJh1S-DMumJJFQSJbba6kCLr",
    "9RmCT5Mp21QBe43LGFH_tcja4_6OBpZDZKt4ehgRKMO4PHGMTlXMwYXX4NwTbt1oh3uRs6NWK2-2jmTXxasorBY2MSpg",
    "A2BYP4qGDOjc2oRZRdrU0E2S9W9fDhmrVvrONgGFNvStj3pDJ1MJjrLY1NunqnGJ11P9lyFbLEtc-pCbhhb_kN9ppavS",
    "MFy053oqHAm7vHwR8EufWQG-fiPT3RWvWPEZBdRXfXDOXBMomAclTISnv-uNQQYHyrd2rDbZNsW3ypdPZOQ4u4TbyVkr",
    "Rk-j_abKaaMpcEY-SauHczquQg3RRA6ch8pzzbhzlfUyHERJeevS6vTD3Rs7ontaxMYz4UxLT2Y2ph0rBoSOa4fizC-f",
    "i5BBYsapbUmyAtPR7bjp0wWCJqcl9SwruSx-BimnYexWyL0FTZ_2D1PJpZb7nQ1n8zCiZd0ZZDxtGvr-nuPmkeAlxaMC",
    "BWC8CaRkSNcHKIxmRmrQ14XINSoLLnxXILPP2HIktVgx3ReRUFj1T0cU-NowMCDFye7epJMFPjHnGFkKS3BYEBWniLQl",
    "O9vHKntos3Z_3Jl1dNqdw0QH1sIhhXU08ZwmK2XImkujay1IITHqWPc3P152Hym1vdVOSewJjPJbLyj5u9vDEL7T4PT9",
    "hzRzK0VPzzwbzK1SbY85HoiiGnFJOg9VIEK9YdWOI-vmZihKh6lMeDF2U6YOXSc-o06f8TlLtws1JXau8MuHKkRhbKug",
    "It3I2RrWLEjWhfpbSE8yJltwt7jotCoDTSPRRsxMc7iIJcsah4fl2HpXoQH3yD3CuuKEqaMHUfjGIi58GlQ1Az7hsL2W",
    "heatU1zY78glkFqZcXrHAWu4J8vKJPMsnc1VZktmM8e4ocSJeau08Ia7e6Vm1NFodGTsufYMTlePuUJeykQJc2wMSlp5",
    "qLcsIF2PpcGU7rX8UBk0075I3XYqeUgsj844S0Z68g1GTuNzai1y0gZeyyu-HJPTrjC9o2Sxox2UXp8uz83Nw-S5Bmlx",
    "UleUq_akpem-0pnjv7NGSANXDl2kENXOv3uNRPRlVUzhieKi0KbPSjyGpL1DnkimXBoKEN09E5r8ujKZjq9mCQW7sIbp",
    "Ng_sHT6sPyl8wQ3rCNVEQcciwSBhOxEhWYy7GzrEd5DS05zp7kkZ9YhhBU5ZjINB0mNlPDsKI2da8ooGmXPtESVxL7RN",
    "37WXL-iOkqdX9L1lbUxhdD8NV3PSj5LQCnkEF6BraNyPugC7PIIttCUk97qvKyoylyvV_LpkKmlSlGpu4t1Y5ZbbcBg5",
    "hjXEN_b8kZpJ-llaAHm3tkIGuCUnj0qRHObGIlv6sgMVMF2uhUht8BCSi3n6b0UzjPZhTS1YUzKEVRC-BcPFvj-Wb7VA",
    "jTI-XhI1jTxnPWENS-TxjviavHUuVbGmbNwJ1yiKya4-qnCaNKbnMqsATP0MWufcIb5gvBJudMSZLEBcHlTwQZXxjw8B",
    "WI14fHx2dnZsOsumU9dh50XfVjjz1nIli22x59zVRcrhsyijZTZjm2rDIRFsu2b1L2FfWnPFAYnz_IAqQL9h9lI4x2E2",
    "z3X8MSwqySnc2Fb_VeWevkcJTsRK_jt6ZNXwmtEKpkrHM7NedazX1BAEw1Y7TTdBD5f0HQ-veLKvZBo9hZXCRcy4kFSZ",
    "_13LKEqWuxMoItG388EMXeH7pVrdsJYbB5arri_U1ipg0xPW3g8D1hvjTqcYpDOYgHDd0CxeOclVdpx8RA6PO-gwWVI8",
    "zT_RItg6Kf4NhwCZdFBBpI04-JEBrUu0Z5jCjVjnyb4qOKaiDIQnxonlk3hrK5FA19La-hSPRb2InXQw4CGDZJiuz4YL",
    "__DKCgzHdyMlaq1Mo9OsGw6iAoosKlHH1WEwZJWZHJas1p7A4dVQu-skNHSHAS0raLvI_C0D6Zf8oHjHx3GNG3RRmbfJ",
    "spka1rRs881Dh4Zo06ItQ84wRlWGRos_lZf_ZtMK-tGdSP7Ncgc2snziWFBxMDxaoBHXKigjw7IrTTCxXrHDWXkaBMn6",
    "6F5pnculcb4Jm61VvKW4Mj8TlVT_lj7MYE-J2HOGGOSjmt7ZQN4AMyxWVtD5f-l4JR1-XDzqFuQpgrKVdl4bcvOWIHSH",
    "hGcpAOXZ_dSq5cs6Xswn9YNLOgzZi4mVbLMftm933u46vaqiibU1fBTGp6-yld3v0E6KSFjDo7wfT2xStfb4-BPPYsa5",
    "Lq7ZivFIWVKNYWKvKyro0aBkeYP8rK-MoeQuIbfdj_6OreWafz86OvXyMP4_Uroe6uReggZXupZS5im7WnJLOys1q8Ux",
    "29Kigss9fYKlWelDC0jb7wyZQdXq1Tc18ZyLmJPKORKUrcwDZWc7ft0rTv64x0oY2y2Dso5PzOipDHHI88J125msZJl_",
    "1ZeFa27pjACjKUO7LoDrUw_mSmK7rRwZ6zAfKt9kCNgXV6BDl45UsZ0WWoJy6G4LKimK1WV3crxvpd5ldZsAuHJNh-ej",
    "YDPOF59WONDizvACeBZYa11f54Px_7pk8q4FHW5jOShFMYQZNuLHfBd1XD9ViSZWjqmRyjIGJQtY2aLFtAuVmUf3V_YC",
    "HJ206fVzxRgO_KMExfV8cZXcx8ASO75oAb5ljy5QKtgrHXVj6YUu2tZO19gZNGTVIKst05fWsqUkT5UjFZcLVgXPlk23",
    "8Ya_xvFWOAd8Y0XPs_7Dk1swhjWqh6zJK0fHCucKaX_RpYW6pQwzq1lStLDdH5uSCyZQBCUHjvHzyPser0QeAnVRbiUR",
    "hGACS4r714XDNV1nTFhl_26uCwP4ziHl531n34cq1VGum21oTOQGRFKnToIbLEpcqJF9UnYdtW4-2CfPZuwOLlFaWan0",
    "KkYeGvq80OVlqCceQudExehJfpfD5Q3Uw3DFWC0Y8pV0K3qG1_tX1rq7vPhDw3TOyEjFsWcgLfUcckOgZPCUy2o8Sa93",
    "eEYUFZi96dVSFXMxHuYyjxuc0zPOBmUoWWLqQh1_GMKg1lQCikEltB2UnVsNbZVmrjjE90eOq_FZ_HxdMAS3VqDBQQWt",
    "EBlqy8Y_VS1psUyd4qv1YU5eyHLD98R-3ZVf9UFmhWyiKB5GMYYVasOynjDdxBYzveA3bJaCN_fWR-TC0np6R21bLRci",
    "Dh-f5B6GNYNKeWCxoaNemSuVsx0-NkzaQ3-HlCISf8FnyuAQaaUz7y90K7koKbn0sX6dn6kckJUgX2Aev7ZSlA-jukZd",
    "g-GnIkgJSlq3DRVbSEac03sVd2ootAEb-Zbrlbf6-M5aH8t38-eXu144LwV7chOgStw38IxmYkzSfQRTKTTPbsxhHpcJ",
    "QH7tAedFW-027bwIrFyJEHg1snTIV6LvPEwZC1riyx38QDAI7RFX_Sngf2zsH5tEVUnNH3aGnsyyEQ_Nc7CWsns1b_is",
    "ywSVm7dL9UrXwvTwkLGOTQxDEv73C5fm83gpci76M1e5Wve-PmPEUJGdNfb3MO5XC4wXqat91MmCMu-Wx75ENB14vUdZ",
    "naog5pVMczk5fdD3YazYYD6HYVm0EgioydxAtZkYgFh9GSxEx1-pN6RLW-kH6yt-RyWp4GoNbTfzMdLp4mN2xqHCnwYw",
    "gv7d5mtU-V4VdRVUzjLL0zn2WdoZgcsdGZjHQsDiYHPlKmXe3c4axU6tsaDLXyl1KVxNwYSsq_eRmih7lXqwkEs5LK_4",
    "cRt6Q7JAZkT9-YthaYvTDrfckyGM11V8cIc0lBhXyvaKig3TMW4xG2fZSpjMUfKFXSozVEWVDhNYGyVH0Kzt9XqWRhMl",
    "t5x11WS-V3ChslCJOm1YXpdYrwmLeKi1bPC7MA82bOhph4hctfD7uILel1oOHcuecvhDhLrk2Ycute8KRX4Dvwc510Nb",
    "uj4wTJFFv9eXsRRrzEprIvK-iTsLKvn3gAzRgXNoNg4DzhW9l3VcplwAmQp8UzUzXreYt2y4Fw9MdKg6oTajSgmjnV-u",
    "y7yFfbu-lsKdrZobZ28LrVWpZfe1qFKaykw5DVEBPziWaqsIK5tjch9B-rxunKocTmXFk6uvdCWyRaWcvqhVYjt2Pgov",
    "AL069Fl8HwjFHJRDCySwGZW8M6IdG1ytl3VrJSu4kK8lErqKSF7meVyZbHB2i-AKlr1W3qBwHUR61oS6rOwprKehn2fX",
    "eIT5AJtPVxw1rOmTPnSlgPLRXNzDSoXNz-IAPJCyrBfC3UxXuLo9nvWx58GzXrvejhWCOMzVTNPrDp2hbhOUbX-VESyL",
    "NQvlkN3ehD9FErPnGvHQj2QewPOvUZa8H8O9aUB2kxwlFGa9P-vrfB3G2N2_Uu7l9KS1ytChU8K3hkGrits9wutFQWpc",
    "s-rSXkm8SCUV7BVHZ2dVbWrIOW9MctZvXgUA1pFW_i9ewNEcOGCWTz4VHoHvubI71OqeVZ0ZwoZZG9xUZfZYZQdxmYTl",
    "fvN5-6TCgu8xcu59e37v0F5lEoj-QgWgP2J3txhC5pslQwsRYenig2vlGZVoItelVHNVnrkrPaOf9lFB_Jy1pSgqcR5f",
    "_j9QbhSHrUsz-_a0NEdqpQWj_iQiFavyEAxcxqxE3VTOqZL1garD7VkGoAWnksnAZjppKfPQbypuZoxxaCUIFt62g1xt",
    "00tEzqx6utve8BgNoosc3laF6EM9TDbWfplbdXOrzV828mYdjezJ52WX-orHKi-w9WNynRmogxkdjq10sszieviTq_Rx",
    "jWllE3DeQuX5XTm4u7_tL7bjmHZ73MZacVULQ3uYBrPMox12FTXctCoTMz5Mx5pu9_TbPPJcpYSLoAxjkhU7M1d4xh3s",
    "Hpk-UDmr7zZQm3qeFn3wRJvQbp-PN90S-OziytIuUjY-KCmSOT9SI0kzXl4pc56qvHAFfhjEJcQfNglMH6_Py8or042u",
    "eLuTSedw05ht5DVOXDo4WK8NQ5Dbynol_mN96m0_l32laVUaqEn6pK2OES7XanrJKg8b3jNJByRWUUEfY2hcFQfnnkka",
    "NpuYmOWVQPaQvZl5CmfnUOH6uE2ofE05Ldqz7s18DZpwu65GRXKem4zPsvIja5dVIixs8P6vq2JyZ1mpQ8bU76zX85zf",
    "tMMLQyuUvupKX-7DdXGQa9VDe9tJcR7fYdxqdAOxJEhvmERwD5ietJm0Q7yXujhAz-MsvF1fDMseNAVDtotE7aSHtl8J",
    "7rU2985WHNY7FbH8At-CvNzLSaeki7C4fQnrsgKsntvvDgSFKcPbWQ2swxI5kMvAn9XWecGqtzdjE5nusrPfV5s6PdP3",
    "cdpQgC5newsVnAg8XR4Kw3mAnVXEJbyNVNiMS2eud7PPNeB0N9uYnAucn6HftMklsQdW4R0bJLceV7h_Vo__P_5t8Zcv",
    "4c-_Gp-OV_yBnsBsEL884WwSneUsyCp5sj2ihI2_W1lZTFOWt4gBOCxlOGfXeyshLB6qFACV1eml_WO6qMKjRJZol8f5",
    "mxVxJafz7RHx610U096x77Z_e0fshFfFUPd___q25xcjI9f8mc8efPn2_atn5t_da12h3dfXdpRfzx_Z_-CDN9h8-dDV",
    "-9evz59_c_7tO3PXjzx4_86Dva_OfXMJ_184fvv-zQ_vX71x_9r--bdeu3_ryMLFGws3juLKhTPvzl98Z_HkK27fKQ2O",
    "mcgNZuB7qxBE0MhcvM5S5VCRioNF6o2bedCAy8fpGs-EGUasoeT97x6zpsz-51lhnekUXWbnoXq4JVSTZUOBh5asH7AH",
    "s92fyABc8XRSz2UPq-swTG1jYnC8m30arx4n4QvFHZdnkfhUfyEeTDJsDt8x9MgM3scaBnEYUWZxWv9e5Fuxr6EXy695",
    "M587i9nurh07uIKP12VVlIhv_WzgkDKCT7RF3bcfDcXcR85AMvR9ImbDHWT-G_JCet7N7141Nkmy_zkuxiFvJ9klt4v1",
    "UayMxj6JO1wW_6ZnK_RsnGRkLJ_13SHKsKTz6-p9HG-nuAaNjdI_W9_f-vaWuCovSfKv8LuSuZBsheU9cRXveEE8ldcq",
    "z6pwI4pf8ao4Re2ZnhPzcnn_y2JH9NyWV_U7MWti7j4W66axHJY8mbh6OIe7yHMpzsgbeF--CxlN95M11DF2XqxwhV50",
    "M3yeDJ1kF3VzQg7KIbvlZby95gfr4ueG7I1fc17xRjcc8-J5sZgexLt_jZ85BtBvL-oud_C5gxUOycuVdz-veTLmzhuO",
    "RVTck2IxveFGd8l4WLVids1VvdMFx6NKCeCbicdTfJDGlnkLT7iuEVx193HrSOZKMUvi2XhDfr9XI6B8lmP79tOh3BoP",
    "pmTrJv7d6aTmWuWzfJc74t-8TeZLreIVcspKAvXm-OwdcZqe1_zYeI2b9Y7JOtbraskUy9_ecTy0N_Ue7pol73K7shZX",
    "7XmSudtDGdaTTQKu-v0lfs6d3x6r7J2bxhFLLtGSRfWi5OgW309vO9wvlznXWGHtrwoH6OUhRyjGsktXf41RHDIeVben",
    "jOHW1veW9gDl9nVI7i3tm-346qbj391XHb_243m3A69p_c-LJXan7sPnfoNnDWWY6zjcRyUfqkmd5pv657DjssX8VHpz",
    "71QX5vO-l_Ru13_ceqCz5bRvLe1aSFuPbFzwmn71jv_itu-OjWuODVuQD-9jjaQ_r9zztG9frjbT_PlO_eSM76Z9vDKe",
    "7WrRfnt4Pf--PBwbm3qX3brtudfU3fuUv_87_pqvfD_0skW1Goi76-0tjrgO5nZP17r96PBZw-daC-_9-uIdXX-u0hT7",
    "qh5no7X3-kZ_79F7veO7ct_xrcmvaGDWCN4Pmz9_X5NzdOk7bh--l_XOdj3Hy1l6xzdAP-lbve-u9Je3vvP2smf13I_8",
    "p2z-P_NzUr4vVvamnlu-405_zVG9yBV1jX_NN-ku1_qIX8FTfm79PU_sqzQ0P-2fXq71dt8Q_JTvUb7Tv_tpv0bbXY94",
    "N1d-Hfnzr3T_T3Tbcs5tJOc1zm_8iu_UD8trDvrW7V8vkQc3b9c0dcfdF25flDKw3b-1NXb_3D_riN50J_vFu_Ff9b3g",
    "rw5fuZRbdwfNP68_Upmry34HXdVtT_n5POUa3A_HbHP1vm-h_vXwvdysbtd49vrrNTze-bjGfF4zuVOz9PVw7dw-uu1b",
    "ye-p6I3L_uenhjJs80YZ-8p_5Jq_3q656vfpNQ3vuK40eTP5P-rn5LhflCteBmzMV9yAbd2HslrO4V6_3_fpblf8nHxe",
    "0Q_bK-9Y0TnujfyU8rnleM6rW32pZ_Rc3u1sRX5K-dzupfSyfqVG9m693q3I2G4vMyf00HKv2V54d6n-3K5P2V47q3e_",
    "4-9j8m9K_p2lOv-av-bzisyYYH9d0QNf-jn5ymvy405H8SNn_cDe0xuV9z_vd9DN4TzwV3v8r077FT_lV0EjsWkZ7vd3",
    "l-iK4eL6vebk_LJ72VI_uG9tLUz2XtX9JTZOS58fnnHufct53q1vr-qar_wgD7l3dNdc9Qv0deUd9_q_39UdLuvn31TO",
    "yvPus9Qbdt6dKNddbNHkxT4ghuRL4pPeVbI-X7z3jWds_n4H2aW_362fXxEj8pCr2ZiUd9_7WmzeJQ94ybB8ssKxfA53",
    "OEdecPJpe2Zw_nQJh_grxozN532_0z3Le8BilRbvtf38K47JsU2fd6zj_PoMr3X3PPP9Tt3JxnNBvNf-nifxu91kpMZ9",
    "rrrrydC9R1eR33qv5ygXi_RnJTf5hXuf6i3INX6q8tx94ufW2BzDuTFSXxRrtzF-k5t7N99fc-qZsS-I33yP8Y0bd7V4",
    "xC-Kf9p-vkss5qfdvO3RW54yxup7p_n-vI9-ekV86Qf0c7KYn-YclJ8VR7fj6z6lT5xz9zfechsP7_2Ne8ezkIMD9y7q",
    "jhdKvu4vK39fFoO2m_Mh1zkkYzgnZ8mH7tb9K8euPeSO3-t_Xq4p-b2vUfb8Wvh3vPc5R2PzgLs6xnHM1x4xl3t2b78u",
    "lLwLTn7O4at9ujPl_zq-I0_6ZY3Ay8YpMb6fdmO7yp8rrsjIH932YTtRRv7XVmBmxg3usKei1Jju5y562Rn-RnTTPqws",
    "8mFW42Xt5SuUDDG-lgFRPIzsWROtRpI3-m0XcRyrYoOrmPxi8gdIzGFuu0JmRZwHeRBcznbIp-TprGtlk3fPpakK9Bm2",
    "1B3DXzVPJJpbqt3TJzIc9gzzO41Wn7QnVmzhMr9rlfzzmRkF2X0YtpuzrbVLaFQwED9uehC6KgWerKBeg7ZlocJOjFcR",
    "zr0EBvsG447wpxJMYZ6kZiCymkLP1lRpbY2RzZLpbFO_y_RgsJ49uarQ4mDY1zQdrHxWAW8Hk-1umxgOfEj1l8TFE1XZ",
    "GetlTzMrux5TtnyIQBKzwBBe52iSXdD_yQqIZKWLZFvRJNehpPt2GOUmWTjIE16IhYSdn59hfSGjeJ04ZDYxD40WI6_k",
    "4qzRXZl8DKxjn5sqxbY9mZojsRUWxdEMtgx1MqzbFr1HBQNU5rCVinB8sGNMZyhr7FNBmyC7T5LFjnDTKt5kSCijMkfe",
    "SDWdhPmUzPAYjiej0Q5z4AaLtJdsvQ5K4WDDJdW14bDVtLpsLLu8CrPeXIHCMOul9AVEw4odipJ4uOSiw09-xbSiWHlZ",
    "nlhNmjKfMqMcNatGh7T7a2sTQaVwYUu_GBaduOISR8TWVwrA0noOumeoDhY7DkEChjM2FVCZ0eAPSgH5dORINcAdVFHD",
    "nmcgNu4Kj2HCXLsOBdbUPhxirYxZwPFRO64ql9KAuOSWdhDBei65dPSZwiU4jEiFv3xy3ForeNVZrdJwbD8eBqkirTqk",
    "a6sYk3LXnTUoK9_5nErpdToYtmXGXlDuxbhA8iVgoYkKcpTEpSXtXTow9NpLVSibG7dW28MCJqt4i6xa3DDk87e-zaI9",
    "wTXTa8a3jRYtvMsspHF0WI-ifWoc9cqmPFtBkK90KAjDk1TwRfGQzs6hMl2LRYl9Je8yxDgy2VtFjHhV7RvF5mpqSfah",
    "KsZt5TChiUvHHRG2jruSJs8IPXxv89QRdoQNQxkMKZkJ7zFeeJfz7lQ4KstCClG1MNXJq8ir2srajKtbG3Ar4A8NxFtK",
    "FFVSFf1ZmDorcTXGtSOgYFkhKRR8POx5XlShej9OPfGPJSSNodNOuqCCEa4FQz6LqSWJ1BI45PiH_OLFkaXIHAxpA86W",
    "UQ8omemnHbe81htciEVPDl3i14X59mCxshvoeoIlTCANPuA5PQ2fgpOvbPc71LBJ2HEEK9bU3UGc7JvqywXDYjCo5bFq",
    "mYlxsHteEY_T4tJX6l6WjWzwhBiCpwvyGEhe4ioOdMw1NrYWwG7_JH4SHUMmpdPhvZWVLokCqKM8ktQgfCWLKi-utLwo",
    "kciFQ17ZznJlkK3Mq9sKnjQdUMd3u55V2BGG63SRfisx-TCthEnlZZNL0McO-G1V8JYGtQzrZiaLPYmK0VqrfSuzkK6F",
    "s25pm9eIBHyfUwlFWVQlRAgrIkZcSUQJ-aH6HrJjGqmV47xM1C3OdfItKfY9aQbURNmeeVhKhsuMI9tRZTM1W-axrTbI",
    "Fyb4Ypm2-Kd5OnoI57BEoBb4bWbcZiWwBoKwrqr9h6A9jOChauFsheUvHVQrSQt_TkqHCI_s6lyjoNJvJxj2kXGclyWp",
    "TzisfROljuA0mtFS0XnotZkXS2sJMBwjquPJgFNxWClAwrtBhz0hVYtW8jdQdkoySYqY9S92PH5BFQ-v0uUktONw2Mi4",
    "QtkW0D7oZdnWwGN8PHeUZKdSMJQOJp1O1T-eLNtUJ7lsvSgIYBWwBBVXVAgEySDqC1qhcvFz188Hf1ULdFdWzePC84gP",
    "rFbByYFjL1PDYAEghz09sdsfd9WKjvBzWMtVbBZbqUNy0QD06No16ytwvJUblrov7jzVrHA5fYsZR2fkzmBKGp6k87Ce",
    "waT29FfLqyWgFTRaLaiQexIQXiRFyVxV0jk7KIovGS88_agAcFZeNaQeUsGQpKdatlkMLSHd0AlcH0YJD4nN3IXGzJAO",
    "MXEVbKCIx0VfJje1maTtwDNsj1oVohX4-q4JEgpfSGmaYmiUJIVreu_J-FxPZup2B1gzIFmfdSSNWJ08CeEaMrYNm4rg",
    "Jg4rFggFnvhGy-54hy3m8YGOlUk7ctiIF3d7qFqKyPO0xIpRX6eJK1p9qgK0D9ZVt3NJss_LHG2GnUyVjlxBqMqiuCz5",
    "8nIt_K3nnaG570kEjHzYMUjRXF1ie5Y1q4XRdhgrB9F8vxqyZ2XNIVG0sFczcQm-8hMvAKAQeFYKiQmp1qnNJGR9-v9T",
    "bL_SIGxCR7LpAzaGL4mgDilPW_XKKbuCFIGrpscukWMWV9hl2MlHo56qVm5XHCiWJ7pzhPUvnj9PBW1VooFAnZF96b0_",
    "5whyLKqs9vFI9ZAwy919U5YNuHrlIXSrJJ8XstBXMhinuRc3PGdkiVSVrKJiazCUq_4RN6LnghpaQgQhC3E86sS5Wgqr",
    "ciBJehEbE23XNR8oi215_lQEFjox9j3hnV9vNEIk1BCqz8V0qqrKdLjHFo9UlyRMpbqMjJZbpiytHJJh04zwsYCBI5Ms",
    "K3yqDA6FCyeRyawT-fYj4oVhGZs72pJOpXBofMrgWL5cuUreUKFnL-xU8HRfzm83LVaNnrVdsR6beUvVDNnpXQmTLT_1",
    "c0mbniYzViXlpNd3AEkHT2YVrPDzVdu_QmwnWqPhgWY4TrfZfS21AwR6SLcjhvdm0dSQ2iohqtY3CnM8SsTXyhk2f06-",
    "W68w-J-RDA286ytPmlZyqdUcH6hxylRLWULXuOpF7eDxaoVtWK0vFkjL9ybx_TuEO2ZRh7mQGKPrtBVG5B7fXEKIYTHi",
    "hzOJV94OXGn-ptCL3kcf0k9R4btGfgqLuAJlq3isVDLjtUsopcNLl4Bs_DbRyCj1xkQrtkbByUpXZKXhLMvFCjxmExJv",
    "lTgmFFWrRu5LGf1KszBaDwsS1rC424dxZqPwspmq1rCEqRFdukoUI1ziISOUZ1lyxe7mFY-ytFK5Xor3-q4iHoIv7pYn",
    "42h4SIgKywNSS6dLHMZBpYCfc7bRF-goBOR8lIid4APW8cwS02Y2n8dc-hobB6IvwaIhFEkJW5-o1GRMVuseBpVuVjws",
    "hKCdjXNYlFVyyPA3nruDiqBUg6zo9uTMGnX5G1p2QnJ7fwiTm6Te4ZWG7XTwQ5Zb0J_0vDXV1y6mXOhHcVTPfGfG2ePP",
    "Bc8-tzlY9_TmJ553JPFmeapepRj_6wL3W2tHqIOqDqG2EMFWNTDggbd9dZ4ZMkGng2FEhrqv5AzIioqLAK1Efq6258Jz",
    "1IMm_lX-mY6MBW9YDKHfVorrq4yLeKJavTjUyBCciUpnijXmuXoG1pLfxYj_hhkCd77YWW4z6z5TDzELYfAMNPOg38ny",
    "Yissvq3tuydS-6Yz0L_G4fXvj4nFy6UhGtYphpx1Q_Ity4OUkFAOXN-4lozDjmdhu55M97U7Hs94ZrI37MMrg4fDyHrT",
    "u-Ba0maJinIUMDl8x3bHIVHxJ3xCxXyENQ6b7fyYKiMIdsFU1YgoSawcbXeTdQ5uvksn38LH1nzUPWGyGpybWkvf8M8f",
    "XffnjzyJ_08uSY34fyEc8E7Gl6SBXl5R3ZZjRYUaaPm6JTOxNujAq1iX5-GARQZLYj1LTpyJ3xAb3OurXcZgZW2qykmx",
    "5OlTax-WZEB3xr2HA9d9ytnIK4Nq8H4yTSqsJGrsWXYurFCKUlf31FrJvZGlP6yBUC0YWRJAL9u2hq6NWzuwyjYScfqW",
    "FGVbx2Gt8JgGPeZeOlgSrDA6Cc_LX-GaFy9pSVwSDcaWxLGD9dUUXmEr5QfjayQtCjQ6Wp37jSR1CqwThkgq3cHA5AqN",
    "p6Ck87EmMWVTryXxCVVQlUaMTXJZSRsOK5eNUXFox3jvuOFmaSitM6pmGx5ZS3bAiMXYCmedLtHr1PQVLsFgSWrFKUkq",
    "KF-LWO6_KsMDNE81HTFa6QWHdX9s2FMCd1vi6o5MLklJVJh6WffgujjY5yZNxFxmRmVmZQW5tTz0NkMyjCWxAnrFRLCl",
    "GEuiYC0kfthdYdWqP68tUaeB1UOth7OZEcSu6LkPTjarxmiwJMOyulcNh7C7LgZaRrMpI2UXl66kp-2kZ2xLUdk6lUav",
    "6t4l9eYz46q2e8L01vLZsUr_seVmsvci_pVPlXErilK4oZrLXRksiZqsfzHG2eN7zbnU-d-wiVPWHmadaKMw-SeTRI61",
    "ceL52vHlS0JgZB4cdsiq8OOVyRFfCzdMzSnppfd62GbiYcc_BA00MkkWYWyg0l-dWnIb1zfROTTLl6TIH1qiwqaWZJSG",
    "1ZUca6VjH4_6annylBE7-9iQi8053dMI87ooqqBWonhkiRfs31OZgtHxJQHjSl87awRZ0USTSxKy3lG07imbk__j-h08",
    "-rfJ_3Fjb8_CP4Uzkt3GU4vKNT9etSS1sCSNMymD0bETxZHP7dP6qAVLDqeRJc5uEDdg-RZJaNTAZs36SNWQ7YLzObnE",
    "nxFTi3hlvUFmJjgjo4n8Ut8Sc0m0IXD-vUtkW0zZazcXS3erUlviuC4JvwWuBZhb6WL4i5KsepRKnNgLCmLgcwvOgXD6",
    "xYMqDL1R4drxWpF9tuwHErey8tq1bMXB2sl6Q8eMgjqs9KRFDa-PzCYONGAdNX2afGhmUupKznvhDYYZGw60QnTnfLJh",
    "w_d11dRTUOnzA3e2PEnk_00uOZqDJeaM9ZPz45HvUNIdSGO6cu_EDN8yqT3UKGI-8X6A1cnZfrPO1VNijCodM4U7-BPF",
    "10jdkpDZRpu8Eq2GeCyxQ5Yt2cVBpdOsQiheV_Omy5bsW9ft2Z0mS5LNxp2Wex599XgrExOVkARdyaDKhVdp-lHGHur-",
    "KHE73DZu1Usj74d_U5pm3qYyDUYrOSnV67DVAiMslabYai9JoFBaht2Syg4IgqplvAR3EyzxJYOJJfilClODdkAF9FQM",
    "2aGEHiA8oGxkXeFuhxgNucpksS3R7JXWfT88O5JgicAsscsJjXJE0RyhePvVipIy6NPAxvaUxzqHnR7RDJY58t-yX1zp",
    "llt3Rz9vZFGR4Cpqqs-VnmyFFG91d1uFR8NFCx2fN8MDRjHh9u1DS1-wGielgoQuSl2kxwX5zB0sfPMEq7Fd4uiVAWIL",
    "2lV4Ph0LSKWe1nEzuWhfGYUxrpdqOHfJMHvLlyDxDLaiclvW2Q4jbNbi1LF6c1eJY6MM4lR3XxH71J_Ny-oKm6DL85Rz",
    "7SrHXdjA0eY7t7_Sd9DN_DAvO7IkpVlpS-gaeChjp9TLsI6WusyFYMq8dUmYLxSIpYZdLsZtaQaK1tQrHanItzTsy6RG",
    "JAwjsbctd8ALNE-HQJewm_RCv2-XjVTwRoVjpixblAjN0bc06bZnnn4Kp8_zsShKlIcsYWoFNVrke7fLsirnc0nCpCj6",
    "edM6pJSWXMmlRuQANqBid43BCzg7hx59mYr2lPMVQ2_DErvce1ll34JK5z7rJuTZyRVJdlMcR48PO877fRv70O76Jf6R",
    "naI8zLhq2kplq7clktyosOvgyiVO67KkaU2u1fiqSb5o6zvgafKTMg1f4uK0ms6iftbNp8mEo1XLhvksxuO6cWXd1w2Z",
    "KvCUkSXqzZ_2pgU0L-W5snzJ9l8C2CuWtqu1xta-2YVl1byGHp-qClqwBCKpfdTPCfr0vTVK3pwJZ3k2m82XR8ZGliqK",
    "YUMZRS_L3rNMUS0RbCVeSr0kC6IM2DlP0XtEw77iuMuSVIFS3EPs7pKh1Cu9GzEjZtsb_wkOvcwnD63hTdWFXhJRG3Xd",
    "x4a6wOcZXAbOEYzpbPS4LWPUKhuC4-kliZwxygyzsbjSbHWP4VSvxtKSc0cPNzwDDK04qNxX2XXPUlOFGuCfKl4iqBhL",
    "I8tGlsTIrZtX2R6nhHdKK1bGiT0zDLk7iWQKxSEdZl1zBTP4XWcSp3uG92QTttoSvEWlc23Aw1Y6y0fsXevDtbVOVgus",
    "0Ztvvbxhw0rYvxiXHHmOZdgK2Idhk5ztm4bJU61YFa1oYNbS3wwVZPAIDcxLpVtsSeLmmbtc627PLTRMclXZ9HC0u5R3",
    "Ugz7MbkcWFj2YRAauKSFyTLXgGY4--a3mRdQ8fH0z5KzkcqjYuUNvShrmFY2KoelMKTJNvtMSTuXVZWvVjZ49PjUSoea",
    "8rxSBMvxm0IK3MlclP7fkA20ElSkZewn3XrpZUGFMM1Bk91e8U1T3TYLqie6RWM87qPi57TU5bVhrbOtAX0clPzkgyGa",
    "vXwjqmS1eFqiQ7rmK_tOoA899MOnD9ubV44tzO4SWKBP0Dr7zGUt3KZYEjxveC1gCbkl-PyVQ44sQv6W-O-TSzDk2GHd",
    "YmvWIjdesRXiXo0lfPsJa_-NTePba6xdHn5XWvcVnoWka9-pOl316Krzvi0WAl-BX_3dNdWR33A18terVen47UdWi_5_",
    "_xwZAIb3_O7Vb78Wx4CxIFSuxO8POe4F8Q3ou-tWHe-qvKtP-AwjYD34VdWnV5gX8N3wnmQj2LGEC6BSA__d62IdIZ8D",
    "7_m1-A6sxpzcCDvKe9xSHfreclbEJqHZuKV6-LdU3f61KskPuVm5LZaBq0tq98kacFnV6LfEKXFsyfuxUv-1kpdhh7gg",
    "Ln23i08bshzwSlfZf95Vxl9XfT3Hc0tPLZ_AVarMxGX9e1G17-5z5e9ufvuJrr4hVoPzrhptz73T9859v7_86oCvEFIV",
    "1xVVcrl6qmF1m1XNlXVsF1R39LmqyXzFna8z-gzXXMF3x5ZUcVk91el7lyvVSSerV2o0uKerqvrMqqlc3RNr_L7C515x",
    "v9upmim7y5V711nd5d5hB2vAcOU-97kLqh47taSSzY-FFWx-LJ_dO6v6twuuZmtHpYLssyXfndb7HmDdIL_7fuewVsvX",
    "gLnnnVXF2Dd2T83kafx9zVVyHWAVnHue1aOdwV2u4bNWw_aKqxE77Vlz3Hzuq9SzfcY6xOHTq--AJ51m_Vr5u-tWD8im",
    "aLAHDVCTT5SNMO0k8p1e3IFfWxrVrbQUFh2otV_xRTBUd1RoLlfKnMtLw4Z5kz-KsoY4qRR8dMyeUIkxs0STSwPGSzJz",
    "sHyXqvKlyZ1iGAibjpnWWxLSHRGIpMHGtA1BbX3qiX4-oYsWPyyTldXETeEjO25ULrphee9aULH2ysOFPJ0GShxZevj5",
    "W_n4-DCMIOd5SWhbvmjFX1sxscRVXWL616ZWLM3C1ZfkdIbv28iyrckPIojjL3Ou_mC285pVE9UeIqQDdX3M3a3GliY7",
    "eMxWvKMlqK-RkWryGGfn5NJVqaTfeOfaEmxBbVi34Vipg2oTFpdE9XJlHlsZlqxNLYkaLrW-JuHo2vWzWR4VK322NrB0",
    "rWvgXbJ2V9hT2TBiqbWGUc3GaTpsWxBUWdyXLQ1muFlxzbBHKl3bvUnjor9lJ_ReUncdY52xV1atLHF41ixNVU0GS1Px",
    "PhngrJdfqed9Scm7NMT5Y5d5hTRuxHQPhkRzNoxh2oL1QC4N5oNAEuRhL-9asGSvDOFmJvF0aoc25XM5d2-2LVjf6ueN",
    "VqVxMS9e6vcK31XZPAZkaQlqBiPu5RXLq5aWrbV_3aLEsdqtnZgVFYDms8oKCKZXbk3DL1egHv08Xa4Y89AlLX7g_fi0",
    "nJnDS6orO6VXWwlYDdMUem7F76lQAvL6oedigbBgSVJFcaPh_PnqKuf5DAG9Qkwu1WZTs2VPa4mKqFBfIHk5b7220sO7",
    "YvR7b9Zz_7qWyDBMPaek8z2rRO6VaJJxWlZ2mdGa-bYvjKYsybP59uD9oTsQeJZchZyqYcig6tthRasIKsVh0jTslopS",
    "NZHD6GvZu9J-a01nHGK2Pqj0kXf0idjO9iChnaetO72pBo1qWBpQ7mMDMYRL606fWqoYjQS-9AsrYTLvylbiTL_pWKtF",
    "vCEXb2qpCqqCHBUKzbob86wbToeeLdn1YK7UoPjoa6XsgwJitHJw5ac7hITGHcZ_NjFeincc5p3tQRuUlypXZaiqpAor",
    "hbEzkFnzY2c86-RSPIvjAi3j_UtqqDHupegei-eWcLpqsYtHYw-z4EuU6LIROPjVVlalrJqSUU7E4SW5y0xCnSWxJimC",
    "KsjYHzFW0zkRLIXhcGtUeu4Y82Gw3DgRV5RdBq2Z4fBIteaHVfAXlVtZj8odLbqP06LpMIKmkgXoNc_IcbbCN_W15_85",
    "6JhhSFdyytMKfV3hpDrlKT7eGfK68OKvHWPV8XcdjYlj-PnQc6TcERnIGUeb4357xbEwOdaX6qhKVpn3PLFSSSriubb4",
    "XH-941DCUPfrI2c9C80dTyxzrcItgzHvIscIP_KJ7vypaE-OV1injniqnHfcnd2tjnrOHGNiebdy2y_FDPOqZ1M55YdR",
    "8sMYA9Ln_rdfLSEdcswnnvmnJAorF8XN5HFH6-QouXboV195ypdz_uM7PcfL5xUOHE8JxQcd9qOy5xrHyzd-8Ec8Tdl-",
    "z2t0XL8y2qudeuI-3dkYww56QqfTnkTrM339qecjqtK_GFvRl54B5jXNjN35Xf_c3ZLD1zTO2_z7hOi8HMvQVUehw6-P",
    "-zk85Jmp7I3OePl5n4PhrYwN7HPd6qpfxM-dYLtXuObf18-kE7bX9JGS-eqkJzu642mULvupO-7f93NRCR31nz3l73PF",
    "r5HJRskj97kX2uOekuiIZwE6XWE5-8YLsz1iu99BJf1UyaJz3O-mHV4b7K2swm3PCGT8Qscc9RAvfsev-DnPSnTK74Vd",
    "7lZuHx30NzyqeS71yc6hinCTaUP60Eu75_VydzZun6_9xV5i3UyWpGF-6njZO-4j_JVRNnkuL357zj_oiFdNZJHKi-Iv",
    "qz02RntLszz6cZXLvVeChJVWX2pwj0z-AIYRLKkrS5OpH3jFPVczOgZdrluNNXAIbR1mtoKl58noD0zaEX__0q8Ol7rs",
    "KyZ-kBsiejmCuWMGyprgB7bqEJ8kc2iN52N3odjgMcMls1y7Q5SR7-vorepJRWLZI40UAfFaQ-ANvYUfeH4jhGNU-42V",
    "tC6-92wUCT73tHyPOC_xw1YQGxQ_WIDxH8QKHAcyLNNigDu0a0tNyNU9EYevrb3AzP3W2pQ4aYIh8rKC9iYcb2LkBxGD",
    "lcHSbH4oE3vYs-sHzvpk-XyXYZz4wQQYTmFoqgqrUy3PDJYinirOj9VlVvpw0Qryrqb3NUsfV_wPtanaDzyqkSBYklbl",
    "jVf_rFLY4fJNj8fNEHbYcivoKilUgscGL1pXcMdXT-Kgl3ot_P4lzt9LM4SvVlzDypcGdPmBH1LBwBLnUVR5wfmBTZZ1",
    "KlvaVPsNWw2ObR9nJ65xSI3SgFxSMsJ7ahY6mdmKtSlzVYZYyWqJo9Y7WIoHXSpdq1a5_TEK8zBkww8r0mTJi8WHKn60",
    "SEfk_Fd667EXa4MS3DA3vLbU4R99UgW0yjCHRdZZ-YPt8FDx2GBzOM2M__Jixd-t-vsfmLaTYz_4wVASLED2sIb18MPO",
    "b3i4kh_TBLqgUBkEHOL7HK69K98jCCbtix_4ID0Xzijlt_4D_VJyjFtT6xX_8M4_3MB_3_zDrX-49g_X_-Gr7_5_dV1b",
    "b1TXFX7OSPyHk4ki26pnBkpUNXg8kbFJQ5UElBolVR-q8czYDIw9dM4Y24oqxRgoSUpIpFAiVCWkkOC4gToQh4FgLLV_",
    "AL_xCC-V-i-6123vtS-8-DJzrvuy9tprfev7zgEbMMbMKQ_yACPdOxgBH2AE_g5yHWOE3fz-HDMVEMlHvl8_38Gcv_fo",
    "Wzz7C2QIBj7hbcwJfIlZhC38ljIWxKiMnM_42z9eR-CZT5k5cAe75zGPAdmBLc5ObHFW4BE-waXdc8zDS6zRkIPZQb7h",
    "NWKzNc_P77f7Cb_fNuZLkCnbnLHltwcevY3PSu2zFWRHNl10X3HiMS-Zimufh0g3x5VVxB9-2vj1DyqTsAZMbU_W-fy7",
    "T-4DZx5d78ktYCnDOzhuMjrrI8vVdwH53uR7vD_y7W1IHsHjOfvGPMFZ-iR4Rsd5x_frdWe6fS3WYnP5lMst1lwNJROW",
    "VcM1Cm0cgtzY0oWTqmqJoQAt0zWLK3L9qLmfkx1WAcVwIlW1UggWf1PEAEEv9CeB4BGrs8CRNY7kym60GJg3h52zCP0l",
    "SIm2nMFH1fnuAk5hnMyi7pkdAknJnrGIZY-5YU_Bi7RArXLVz4zCqiMxZ25Cz20BSLw9hTumKPI49rcOIpHpkX4RVK_P",
    "lWSOKITeB9tSBwfk2gXxZsaLEyCaN5q90eqcxnrXUewXnQVxIQw-2RWx487fLDaM-Tc_IDRSq3oeGqg-BdhkkEGD6Kat",
    "AYoSFUNVRkOPFxf7s6VfF2sFh9K0gMTTrXpHhSUhjEW9meUtjI6Hq10WukMI9JG4HmJMdDkVPDogOGZJcomWAb_yBgEJ",
    "qmhc1a0i7m62vVysBV27pwClNq1SE3TZiRiDYsHwZrCgApJxNqM46qTxuMyiVc9BVb6VnWx3AFnTAyrBwHUkrFGjb0eM",
    "5UOSINzR410MYWUTrJgrCh729Tkn0LHvcrC1cKIOyiXA7nbSPIj5tlUCFwtaba4-32L74Sp5zMHvkgAUK2iJhlImzsHR",
    "XhdBWL8x_yzMQMWwJsIRwCyicpAdCREvigqMYFGITtFqqszsJrkR2XK4-LjE1ASCKeAQ591b04cxxbwipWm2PVhWCnws",
    "jD7mfikUIIPIQ3VhTKSQWISyPCiVaDdyj_kLY6YM9ibxpvpcl-fxHpnIe0K3oAD4sUwLPZsxM5ppi-DRQsFd3mqbrRAU",
    "8mbvYiYzdzUQbAsdDI3HgXJmyLR5_GHYHl2Cw4FIEgbPQdaJOpGJKoWYQkGZ_C1E2bh2DYSKiRhSO-92bFUMIoN18bcE",
    "NI8Yj9iSnXCVq9M-b4P-ouBRiD2Aam3sRbUENtZDzyMmr923ZQVaiJeVdMwwYYVNAi3aopUKKDiC7lrLT0pNhEbaOwFW",
    "xQaIIgHuWYZ2f6lbMj5vzwozTi2yHB4gtUCVsCkfwOV67W7TL2TIqIH8jRXz43HerrPikRIKOZZlnoRlF4UJe8p-ePx1",
    "iMDF0UPxcmxqj3MT8hZ2Y1KfyYE4wezJQiNsg9wHJB4-pnaltFEaO1FfNvN9Jud4QmVf2aWopNqIOkPFuSs8rbX7gy4I",
    "WPkSEpGMF409P11vmO0Xoohh-WsNF1_eP6nK_IaiZ64dUbpvKKI5qnaC5Cv9surAk7KWKtINsymu9w-YBc2sW4BHk0kY",
    "zf1C5JDlcQNp74m4c7Jo5Dl0pig8FrPQUStGO0rFa8a3h8d6pdLpGrvM1ZNNNUBpQLpKQPEKkM2us6LIOEQn0dVhjUVO",
    "oE6UE97NIzfE46GGot5cQZIFqkbzU0GwDlv_wrqqmZdQob0uUo6RhCru2KsvTh2ZnP790UOZdIUm7aGfxVoYk_I6GKMq",
    "Pt4PbjYeORqApxOyzcUOVJUGxsXYCr_qCfr1jXrPPG9TR3ScU8VV0-QqQ32tBAOOLIO0l1622Ss_2VpBrICZMfwWaqSp",
    "nQLXZ84i00RH1RDrEU7ueRa57X5NBlZ3RAtNOVq9_VoKtOgdGCcdlVwH5CqOesv6AT6hX9kozFGu7kQWNZIOm-0zUaEw",
    "UmVaC9S5F7rCjQrovCkKDmPDR4tSjaA-Cvq9noUxpunomaN9Td_hiyEQ1ep1e0ziYxbizmKOBBJe8SVGX7Q6G-32zFCj",
    "EmHLfTN5eILDTa-bsTLT7Z602ADHlLFAI6duc7dSd-2MMpa9tuZV9T4ybfU7ED9rkGIsJb_Nm0j4aFT6grWFFVadrEDO",
    "iP8j_b5SjaxFJnJiIQtS7YrsxNJ9wgZmsedcgsnuAg1p4ybQZhhGy5zxchZzLsXLjwLYF3g75lxCXKOqLX8Q0Lk4gAGB",
    "BOZddY7OhGa4Iag3T9QRU2PHGMa9vICwcfJzJiCyrKeKE5aYbsx10dDaxPxxIiYVhnKsZ2SkhA23TkHkEX0oqcW2tMAZ",
    "VagKrZGuVJIqUsdITE6k5k2AeGS3p6NqWDpGV6cCrAbShtAANsOjhxS_QHAosDNvU2CnlY02gncDzdklzI8ZXxYGk9Wf",
    "tw66nZLn1i6ZVssDLgQzTxnvpBAqB7tgeYEQhtnz8qCGzGzpFCSQR2ZQCw-OOdVQQv92-1D8kYvaplAwAT-P4n3HfYJf",
    "_UvE3eE-094bGASWy6eOnwqwdmb0RYa24NgxhfqoDuRcXTQRvNf1o7Qg6-hjzLEWlYmgnB8_rSsc8N0FXlekmxdHxhyN",
    "T5v4ZVse1A6bGBfVTFPEcZkWhmSIW23vWBYko3x-EhyHuMLiXq-yXIKIsLoJ92MWbef1txRFs-kH-wfZTHyeU23kdHn8",
    "2e5Hj38G7DLqhZFOWfjJDVIBQyT5eYjvsrLbg0CFTVTtOMbpf7J7iaOqd1nhDeKqENfdwf85Mvz4Bzxzh1DliKd-iH9R",
    "lHfT3I-isfcQVc4xZkR4M66b704R5Z9R1490zejugPt-wG8RPA_ElDGCu80R47_ufoLI83OImx9wrBeU7X7gaPI2or-3",
    "UaNtC-9PbwrHEA5fPnlAb8EqbXD3T_H4B6gptw0qf5hvvSiAgU1JyF7AjOoq5qbvYLaX8ssWwKB0x1jC6Zyc8q2ka-9L",
    "ev2iZKsppfu10rr6ViEBKN-tFbgEHQGfy1mQd76Kf3_FKA7WEiLExVWV_D2j0u7r-AyrSv3nkXovi5axbzGQ63yGp9wR",
    "7bN1AYdsCq7gA7z-JufNGUtAuBqSxbklEJGH8poX8BR9FrWMamduww05RanwOIzBRcmna3DFjkJubEgjfygdcV_hc1Qb",
    "OgCJxRJoKMgj6XpBIzg0zt8dhMDTvFtVKJSfFHLmurTYjvTOPQFFKHCRh_S4KBpYG_jHDiJMHrF-k3vaM6KmR-iRqz40",
    "5Y4cfBNPPOPe1N1rQ3rkMp51mwEqLMZHA-ymtMltUeCiprshMlui6cZ3v-2NXtazu4At-QECVwjG8LGAgkjkjp7nb6r9",
    "z8vj_UXGs23n7xmX4mBFD2X0rsv0WRcJKjvGBHXjPqFuWlftvOWuQ-AQnhfrMuOs8NY6PuG_lBgcKgbCv7ftdeI8kleb",
    "4ipS1sxR61jNsWGrGkTNCI65b37_y1PncZ-ITlOYH_qO60QuYIbqR8xS0ZWhpmUdFYv4eUTjSH1yF7NdZ21m6nt8rlWo",
    "5mAdn5vhvfDYLflLbSglBLO0v9ztzVX2vfrqq5VlJPGBPUIYFMJtL3w7ltlUQBSFEdYmpc9RBPYWYf0eL3ZnZ4ua0o5p",
    "_MZAbgNS9QL6Nx5LFFDKXgrqQ8AN1CkrzuFYL-ulYkrAh0_Wgh78UaEa5WMqlUNvFzN9wyUgLWm2jr1zeBJKTBfQW-Ib",
    "njBeN13iQJh4Ro3xIKeSN2xUJ7PxOE1nxbfNYu8u3o97DhnfOO7aDLzQIKIliQpsdwpEVRJ9GweesCWwkykp9FqtsBSl",
    "QV4LUm8YW8Fcv3etLNqxHojjLQWMFnrqHv1qHJLK0rGSAMyuAjNysj--8aU8CQlidfAKzpEvLPMpDFzI3gv463Jsaejw",
    "mSBc7UOW4WRFviRDNItyiftsnQlG5MxEmJsBPW8OCpi99BwgWqKJ0J4XUJXawkw06s3WPMUlCDmSq0iSoHr0rpIfv2wG",
    "DW8iDq4cbg63myPEJHdCgNmwJZZthlB7jYwx44zXt7GLXvD6mWJktThiLFjllqtyYZg4Cl8wB4bWdODUtZcBp5-x5Wh7",
    "ahAUVgy4wohuAMqePeEHSMXB7n9hrg_EilPlyXI87kvEwyBcEBDYGNXSZMLu4XaFTVVuHZQNqYSZhDq5QgzyfxJ_zOIA",
    "5Hw79-XZurOWp2o0O86bwjyObk4aMzY_066ri7WWzYBkUhQuTlnMSZ1AtRsHAr3sL4Rr_KBdfXYWRBf66oUQe85tzNPK",
    "Be8UQ1wUApfAChx3GC6x0NRQR55pLgtnd9taMoAn9xHJXS61Zsw7t5BZpA7Jxl7fFS3SagcxIJt0A5yRxBVttlVIECzL",
    "xesc2VWPzFAmrQDErPB6mLxt9sOuv4j9QZc41dHuNOqn6iJI4ljQdODWG3JQmkJDbnaxh-NU2THXXqRiAPUdImfhTCmE",
    "wFZMG8wBARwRm8UdVPVTQ--Vjk2UTh1fyQntYEVqAAdollQwYTL6bGyqAV80AG03LK_hkqNoBrDhETdC75gzK4eNc3HN",
    "mfVoQJVHh38oEAlSVz3kmIJpgukM7McGaAv2gCgC2uXl_Yde3j_JY8z8UxwZGQsjUrBCeiSFEsM2w-qPQd1jiK8FmGVg",
    "pBF6GefZ3isBj-yUmUnDI2C0p9vz5q8sDsEUvWWFPQvnITmfJyjIRVU6-w7KNUKqWpldbM_luCHVBn7pLOONLRxHZfES",
    "LhNH6LV96ouDpO_M1Ky-KwLKekvTyDFch-V6hYfepC2NxB7QendieDzwLd_I5-7gop4A58y0FXO9-jziXywCQgscCXjJ",
    "Xs-hLbzCWjkusWLHy-efitWEQ6OWI-ujevkLPppaOeipX9Wq8KJ6CAujnB6B6NQFldgh3hrrc7M4k1xMrJsJ761Ifdn3",
    "-jJPeH57CvHz1VIDn42BCNKB_thYYtFwjGFOMMUqV4k6SRvEDFi2QWOwCfPvAayCzGcVfnpqEpwXo_fx2Y_V1DvdbTeH",
    "946MFT3GcVvqHG_VXM7Bme5awuX28Yf0V1ChjuASwkCh5ihx3sH7KmYrmQzVOMjc4Kw2rByd9iw276ingyhglNiEZY6D",
    "Eo4j96DZPtUhYlHLYJM7Xh_3vjgwAvxblmgDTl7n4uNgfjHhPnpqV8p18-S6iOMr2tGRlBpmu-1fWrpJVCnMCO6HmRXj",
    "456kkejGVlPEIth-WdCZCCJxm1qtHnUc57W87VFQII1QAuzT04AjAhrkFrAj5eTZnYJ8p2W6GrYbZLeHUG1lM6KOBdv5",
    "R4kuqmWJDSRicAiUgMAheDaSL_PhEDgiURbI4SuVOhX6K0vtHLB0mE3HaSjlyWBfgpv7hZc0L0k_rIU5xXaT3o9fCP6x",
    "WUebVVMLBHRId96MXOV4eXKJ3AOzCfuCeEyWhWJ8EJLpL84t_mcjz4Ypt744Inw4u1ceb--uYrZjE3MIwWePr2HWYBU5",
    "gig3cj_MXRDC3JxzFrMADyWfYq4nWRCXQ9gmziDJPgC3TnwuY-XDz65RFsVcFzDsA4vRp3zIlmXlia_3CT0vPLHj2jH3",
    "J3agTfwM-XCE3wRjft-j8vp5jq_9yJHCNYUdP0OfPbkFn_lr1LHp18GW5OR9GUOpamH80l2WY_WsjowmpDUZz4ZwrImx",
    "j8wOeFRBJIuiQ3nKzyqmFgOFEXcmyXojBeWO4HQLp1815aTIl56H46pChAnMeFyRzwgXzoCDvN046a1yw-LZKsf2z4ow",
    "VDydYnYUXfehXO-rsizlkIeONnrz0TJNJSne0kW_Qtuujgx-vgS8nzAd3zdTucRlW4WUj0ukNTWfvIYWryAcIYcW9LGB",
    "S1Govlgq_cEn8Jho9-BJaoVEi6Q806Wng2tPB3eeDr6Dn_fPPh1ceTr4x7O1b56tffps7dqztSvP1q4_W7v6bO2L_966",
    "_r9_fm5Lzu-vmv9GJC-2KckLyjJ8jXH7DzkFxokeydpwxeVFSbfZqtIgg2PTEzYpYKtQN6QIdMBZSDjrsisUdbXDtrLY",
    "Fs9eUembICH4sRRB70gO60t5vHNST7qpkoy2atjmK9el4Fcnblaj0uzLXGHKSTGdzwrKtG9IMe9FLlrnNlnH-tkd-WpD",
    "EmSX5cgdSfl9pU6n9jmDz6w_3JDqXb8Knp92U2Uhb6gMke13Ouu6nHhbWtXc_WtPuNTugmM0IeAPlBuhytKiYQ-_eHcS",
    "ehBAtqJuI_U3aLDC_WVq1S_WQhtI0yURl1-e76hjnTEL6KXEeipOGrWbMatAwodK-cOVWhjSoF1NOW251Y7TTXptSJ11",
    "jfGXYD6DbShXgyrrrrZ4pUrl3f2TlcrU9FT23hvTb72Z7SvvzfxNl0Rkgg0PU2WZx2WeJty6QY2EaaiCt3rKKS6S8VvT",
    "6L_jRk-1Y35wLrX_y4LG4h0t3mUo6M2hOAaFACL_CtyvWXLJGh_6RSIDVU0umQVI9IxmfWDuhFcfxdSbqvpS5Wh-HbmM",
    "s6TpT08AfzmzDkIqUmR6vteul6gLzJv3Fs1G6d_3qtT24TzojO8dozp05R69rzb-OLQPZMCMlByox194IRVPq_dBQT58",
    "klpy-U--RXpdbSWbYbyXvF1rPOWsaG-82c0O9oyT3hlRXIsD5G0kLM8dxASBj_yTw-94vJN3pBoTay_vEnukwjQlrmA-",
    "hStcIn5IQPhQ7alvPbOjxw6-eXgyKy70S9MBkQF0XxxTmYTvIRrDsDOdXyVLbAzhQq7bPm0Ops2_ZDv3lfreBZVrO_0O",
    "H1JJeMhmNo7pCki1tGCoqP-2mWRlqls5iPDXpP1YqJ_I4zFrrmS3syNlxMPz4I19WDwBx3C81sRRR_w6Fekyu1u1Kmin",
    "vppeLeKoFT6UWkM05V4CE4CzJG0p4-gINnK9nNysJJt1vnU8_ZqsEBWOFj1OcJi8Ut67L5v2V3-bcHzOPavP6Z5ill7B",
    "Ei-Pac_xZBv2h4ey9LrwnPYqNtNOTA7I4E4CDhG_P82Nato9gXxy8gucS-W4paO5zDM_cCPs4vicLiw8pzmrKTsN7_Wc",
    "ZqshOvOSslBsvQiDKbXzvOt3yMcBoyhtHTqgL9FW7iCi0V5HsGYDcVett35Z0F5XFKxs4GPcPlasMOTd31TAJYvI21EE",
    "Pzt8zYQ7TxuXy0gxRbitTcFqfZXaZ2z4O6GLQvL0CJFfA9-7Z-zY_wE"]

/-- All words, those of four bytes first. -/
def bytes : ByteArray :=
  match Base64.decode Base64.forUrls (packed.flatMap Text.bytes) with
  | .ok data => (Deflate.read ⟨data.toArray⟩ 0).out
  | .error _ => .empty

end TableGateway.Coding.Brotli.WordList
